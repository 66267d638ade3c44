import Rulebook.Setup.Session

/-!
# Session settings fail safe

What keeps sessions from being set up is one of four checks, each of which can be looked at on its
own (`SessionSettings.Check.fault?`). The settings fail with the fault of the first check that has
one (`SessionSettings.load_eq_error_iff`). A key is derived from the secret that was chosen and from
no other, and only if it is long enough; a release build never draws one
(`SessionSettings.settings_fail_safe`).
-/

namespace Rulebook.SessionSettings

/-! ## What the variables say -/

/-- The words for a position of a switch. -/
def words : Bool → List String
  | true => ["1", "true", "yes", "y"]
  | false => ["0", "false", "no", "n"]

/-- Whether a variable is set to a word for a position, in any case and with blanks around it. -/
def Says (env : Environment) (name : String) (position : Bool) : Prop :=
  ∃ value, env name = some value ∧ (Text.trim value).toLower ∈ words position

/-- The position that a variable says, if it says one. -/
def position? (env : Environment) (name : String) : Option Bool :=
  (env name).bind readSwitch?

/-- The file of the secret. -/
def keyFile (env : Environment) : String :=
  (env fileName).getD usualFile

/-- The secret, and where it is from: the variable if it is not empty, else the file if it can be
read. -/
def material? (env : Environment) (readFile : String → Except String (List UInt8)) :
    Option (SecretOrigin × List UInt8) :=
  match (env secretName).filter (· ≠ "") with
  | some secret => some (.variable, Text.Utf8.encode secret)
  | none => (readFile (keyFile env)).toOption.map fun secret => (.file (keyFile env), secret)

theorem readSwitch?_eq_some_iff {value : String} {position : Bool} :
    readSwitch? value = some position ↔ (Text.trim value).toLower ∈ words position := by
  have hdisjoint : ∀ word ∈ words false, word ∉ words true := by decide
  change (if (Text.trim value).toLower ∈ words true then some true
    else if (Text.trim value).toLower ∈ words false then some false else none) = some position ↔ _
  cases position with
  | true => split <;> simp_all
  | false =>
    split
    · next htrue => simpa using fun hfalse => hdisjoint _ hfalse htrue
    · simp

theorem position?_eq_some_iff {env : Environment} {name : String} {position : Bool} :
    position? env name = some position ↔ Says env name position := by
  simp only [position?, Option.bind_eq_some_iff, readSwitch?_eq_some_iff, Says]

section Load

variable {env : Environment} {readFile : String → Except String (List UInt8)}

theorem material?_of_secret {secret : String} (h : env secretName = some secret)
    (hne : secret ≠ "") : material? env readFile = some (.variable, Text.Utf8.encode secret) := by
  simp [material?, h, hne, Option.filter_some]

/-- There is no secret just if the variable has none and the file cannot be read. -/
theorem material?_eq_none_iff :
    material? env readFile = none ↔
      (env secretName = none ∨ env secretName = some "") ∧
        ∃ reason, readFile (keyFile env) = .error reason := by
  have hvariable : (env secretName).filter (· ≠ "") = none ↔
      env secretName = none ∨ env secretName = some "" := by
    cases env secretName <;> simp [Option.filter_some]
  rw [← hvariable, material?]
  cases (env secretName).filter (· ≠ "") with
  | some secret => simp
  | none => cases readFile (keyFile env) <;> simp [Except.toOption]

/-! ## The checks -/

/-- The checks of the settings: of the two switches, of a release build that may draw a key, and of
the secret. -/
inductive Check where
  | secure
  | drawn
  | drawnInRelease
  | secret
deriving DecidableEq, Repr

/-- The checks in the order they are made. -/
def Check.inOrder : List Check :=
  [.secure, .drawn, .drawnInRelease, .secret]

/-- What is wrong with a switch. A debug build takes any. -/
def switchFault? (env : Environment) : BuildMode → (name : String) → Option SessionSetupError
  | .debug, _ => none
  | .release, name =>
    match env name with
    | none => some (.missing name)
    | some value => if (readSwitch? value).isNone then some (.invalid name value) else none

/-- What is wrong with the secret. A debug build needs none. -/
def secretFault? (env : Environment) (mode : BuildMode)
    (readFile : String → Except String (List UInt8)) : Option SessionSetupError :=
  match material? env readFile, readFile (keyFile env) with
  | some (origin, secret), _ =>
    if secret.length < mode.leastSecret then
      some (.tooShort origin mode.leastSecret secret.length)
    else none
  | none, .error reason =>
    if mode = .release then some (.unreadable (keyFile env) reason) else none
  | none, .ok _ => none

/-- What a check finds wrong, whatever the others find. -/
def Check.fault? (env : Environment) (mode : BuildMode)
    (readFile : String → Except String (List UInt8)) : Check → Option SessionSetupError
  | .secure => switchFault? env mode secureName
  | .drawn => switchFault? env mode drawnName
  | .drawnInRelease =>
    if mode = .release ∧ position? env drawnName = some true then some .drawnKeyRefused else none
  | .secret => secretFault? env mode readFile

/-- The settings that are made where no check finds a fault. -/
structure Sound (env : Environment) (mode : BuildMode)
    (readFile : String → Except String (List UInt8)) (st : SessionSettings) : Prop where
  secure : st.cookieSecure = (position? env secureName).getD true
  derived : ∀ origin secret, material? env readFile = some (origin, secret) →
    mode.leastSecret ≤ secret.length ∧ ∃ enough, st.key = .derived secret enough
  drawn : material? env readFile = none → mode = .debug ∧ st.key = .drawn

/-! ## The steps -/

/-- A switch fails with its fault, and else it is in the position that the variable says. -/
theorem switch_eq (mode : BuildMode) (name : String) (usual : Bool) :
    switch env mode name usual =
      match switchFault? env mode name with
      | some e => .error e
      | none => .ok ((position? env name).getD usual) := by
  unfold switch position?
  cases mode <;> cases hvalue : env name with
  | none => simp [switchFault?, hvalue]
  | some value => cases hread : readSwitch? value <;> simp [switchFault?, hvalue, hread]

/-- A release build in which the switches have no fault has both of them set. -/
theorem position?_of_release {name : String} (h : switchFault? env .release name = none) :
    ∃ position, position? env name = some position := by
  unfold switchFault? at h
  cases hvalue : env name with
  | none => simp [hvalue] at h
  | some value =>
    cases hread : readSwitch? value with
    | none => simp [hvalue, hread] at h
    | some position => exact ⟨position, by simp [position?, hvalue, hread]⟩

/-- The key is made of the secret that was chosen. -/
theorem chooseKey_of_material {origin : SecretOrigin} {secret : List UInt8}
    (h : material? env readFile = some (origin, secret)) (mode : BuildMode) (drawnAllowed : Bool) :
    chooseKey env mode drawnAllowed readFile = keyFrom secret origin mode := by
  unfold material? at h
  unfold chooseKey
  cases hvariable : (env secretName).filter (· ≠ "") with
  | some text =>
    rw [hvariable] at h
    cases h
    rfl
  | none =>
    rw [hvariable] at h
    cases hfile : readFile (keyFile env) with
    | error reason =>
      rw [hfile] at h
      cases h
    | ok bytes =>
      rw [hfile] at h
      cases h
      simp only [keyFile] at hfile
      simp only [hfile]
      rfl

/-- Without a secret the key is drawn, where that is allowed. -/
theorem chooseKey_of_none {reason : String} (h : material? env readFile = none)
    (hfile : readFile (keyFile env) = .error reason) (mode : BuildMode) (drawnAllowed : Bool) :
    chooseKey env mode drawnAllowed readFile =
      if mode = .debug ∨ drawnAllowed then .ok .drawn
      else .error (.unreadable (keyFile env) reason) := by
  unfold material? at h
  unfold chooseKey
  cases hvariable : (env secretName).filter (· ≠ "") with
  | some text =>
    rw [hvariable] at h
    cases h
  | none =>
    simp only [keyFile] at hfile
    simp only [hfile]
    rfl

variable (env readFile) (mode : BuildMode)

/-- The key fails with the fault of the secret, and else it is derived from the secret or drawn. A
release build gets here only where it may not draw one. -/
theorem chooseKey_spec {drawnAllowed : Bool} (hdrawn : mode = .release → drawnAllowed = false) :
    match secretFault? env mode readFile with
    | some e => chooseKey env mode drawnAllowed readFile = .error e
    | none => ∃ key, chooseKey env mode drawnAllowed readFile = .ok key ∧
        (∀ origin secret, material? env readFile = some (origin, secret) →
          mode.leastSecret ≤ secret.length ∧ ∃ enough, key = .derived secret enough) ∧
        (material? env readFile = none → mode = .debug ∧ key = .drawn) := by
  unfold secretFault?
  rcases hmaterial : material? env readFile with _ | ⟨origin, secret⟩
  · obtain ⟨-, reason, hfile⟩ := material?_eq_none_iff.mp hmaterial
    have hkey := chooseKey_of_none hmaterial hfile mode drawnAllowed
    rw [hfile, hkey]
    cases mode with
    | debug => exact ⟨.drawn, rfl, nofun, fun _ => ⟨rfl, rfl⟩⟩
    | release => simp [hdrawn rfl]
  · have hkey := chooseKey_of_material hmaterial mode drawnAllowed
    dsimp only
    rw [hkey, keyFrom]
    by_cases hshort : secret.length < mode.leastSecret
    · rw [if_pos hshort, dif_neg (Nat.not_le.mpr hshort)]
    · have hlong : mode.leastSecret ≤ secret.length := Nat.le_of_not_lt hshort
      rw [if_neg hshort, dif_pos hlong]
      refine ⟨_, rfl, ?_, nofun⟩
      rintro _ _ ⟨⟩
      exact ⟨hlong, _, rfl⟩

/-! ## The settings -/

/-- The settings fail with the fault of the first check that finds one, and else they are sound. -/
theorem load_spec :
    match Check.inOrder.findSome? (Check.fault? env mode readFile) with
    | some e => load env mode readFile = .error e
    | none => ∃ st, load env mode readFile = .ok st ∧ Sound env mode readFile st := by
  unfold load Check.inOrder
  simp only [List.findSome?_cons, List.findSome?_nil, Check.fault?, switch_eq]
  cases hsecure : switchFault? env mode secureName with
  | some e => rfl
  | none =>
    cases hdrawn : switchFault? env mode drawnName with
    | some e => rfl
    | none =>
      have hposition : (position? env drawnName).getD false = true ↔
          position? env drawnName = some true := by
        rcases position? env drawnName with _ | _ | _ <;> decide
      by_cases hrefused : mode = .release ∧ position? env drawnName = some true
      · obtain ⟨rfl, htrue⟩ := hrefused
        simp [htrue, bind, Except.bind, throw, throwThe, MonadExceptOf.throw]
      · have hallowed : ¬ ((position? env drawnName).getD false = true ∧ mode = .release) :=
          fun h => hrefused ⟨h.2, hposition.mp h.1⟩
        have hkey := chooseKey_spec env readFile mode fun hmode =>
          Bool.eq_false_iff.mpr fun htrue => hallowed ⟨htrue, hmode⟩
        simp only [if_neg hrefused]
        cases hsecret : secretFault? env mode readFile with
        | some e =>
          rw [hsecret] at hkey
          simp only [hkey, bind, Except.bind, if_neg hallowed]
        | none =>
          rw [hsecret] at hkey
          obtain ⟨key, hchosen, hderived, hnone⟩ := hkey
          refine ⟨⟨key, (position? env secureName).getD true⟩, ?_, rfl, hderived, hnone⟩
          simp only [hchosen, bind, Except.bind, pure, Except.pure, if_neg hallowed]

theorem exists_load_iff :
    (∃ st, load env mode readFile = .ok st) ↔
      Check.inOrder.findSome? (Check.fault? env mode readFile) = none := by
  have hspec := load_spec env readFile mode
  cases hfirst : Check.inOrder.findSome? (Check.fault? env mode readFile) with
  | some fault =>
    rw [hfirst] at hspec
    simp only [show load env mode readFile = .error fault from hspec, reduceCtorEq, exists_false]
  | none =>
    rw [hfirst] at hspec
    obtain ⟨st, hload, -⟩ := hspec
    exact iff_of_true ⟨st, hload⟩ rfl

variable {env readFile mode}

/-- The settings fail with the fault of the first check that finds one. -/
theorem load_eq_error_iff {e : SessionSetupError} :
    load env mode readFile = .error e ↔
      Check.inOrder.findSome? (Check.fault? env mode readFile) = some e := by
  have hspec := load_spec env readFile mode
  cases hfirst : Check.inOrder.findSome? (Check.fault? env mode readFile) with
  | some fault =>
    rw [hfirst] at hspec
    rw [show load env mode readFile = .error fault from hspec, Except.error.injEq,
      Option.some.injEq]
  | none =>
    rw [hfirst] at hspec
    obtain ⟨st, hload, -⟩ := hspec
    simp [hload]

/-- Settings that are made are sound. -/
theorem sound_of_load {st : SessionSettings} (h : load env mode readFile = .ok st) :
    Sound env mode readFile st := by
  have hspec := load_spec env readFile mode
  cases hfirst : Check.inOrder.findSome? (Check.fault? env mode readFile) with
  | some fault =>
    rw [hfirst] at hspec
    exact absurd (h.symm.trans hspec) nofun
  | none =>
    rw [hfirst] at hspec
    obtain ⟨st', hload, hsound⟩ := hspec
    cases h.symm.trans hload
    exact hsound

/-- A debug build fails on a secret that is too short and on nothing else. -/
theorem exists_fault_debug_iff :
    (∃ e, Check.inOrder.findSome? (Check.fault? env .debug readFile) = some e) ↔
      ∃ origin secret, material? env readFile = some (origin, secret) ∧ secret.length < 32 := by
  have hfirst : Check.inOrder.findSome? (Check.fault? env .debug readFile) =
      secretFault? env .debug readFile := by
    simp only [Check.inOrder, List.findSome?_cons, List.findSome?_nil, Check.fault?, switchFault?,
      reduceCtorEq, false_and, if_false]
    cases secretFault? env .debug readFile <;> rfl
  rw [hfirst, secretFault?]
  rcases hmaterial : material? env readFile with _ | ⟨origin, secret⟩
  · obtain ⟨-, reason, hfile⟩ := material?_eq_none_iff.mp hmaterial
    simp [hfile]
  · by_cases hshort : secret.length < 32
    · refine iff_of_true ?_ ⟨origin, secret, rfl, hshort⟩
      simp [BuildMode.leastSecret, SessionKey.leastSecret, hshort]
    · refine iff_of_false ?_ ?_
      · simp [BuildMode.leastSecret, SessionKey.leastSecret, hshort]
      · rintro ⟨_, _, hsame, hlt⟩
        cases hsame
        exact hshort hlt

/-- A release build in which no check finds a fault has both switches set and a long secret. -/
theorem no_fault_release_iff :
    Check.inOrder.findSome? (Check.fault? env .release readFile) = none ↔
      (∃ secure, position? env secureName = some secure) ∧ position? env drawnName = some false ∧
        ∃ origin secret, material? env readFile = some (origin, secret) ∧ 64 ≤ secret.length := by
  have hswitch : ∀ name, switchFault? env .release name = none ↔
      ∃ position, position? env name = some position := by
    refine fun name => ⟨position?_of_release, fun ⟨position, hposition⟩ => ?_⟩
    obtain ⟨value, hvalue, hread⟩ := Option.bind_eq_some_iff.mp hposition
    simp [switchFault?, hvalue, hread]
  have hsecret : secretFault? env .release readFile = none ↔
      ∃ origin secret, material? env readFile = some (origin, secret) ∧ 64 ≤ secret.length := by
    rw [secretFault?]
    rcases hmaterial : material? env readFile with _ | ⟨origin, secret⟩
    · obtain ⟨-, reason, hfile⟩ := material?_eq_none_iff.mp hmaterial
      simp [hfile]
    · by_cases hshort : secret.length < 64
      · simp [BuildMode.leastSecret, hshort]
      · have hlong : 64 ≤ secret.length := Nat.le_of_not_lt hshort
        refine iff_of_true ?_ ⟨origin, secret, rfl, hlong⟩
        simp only [BuildMode.leastSecret, hshort, if_false]
  have hposition : (∃ position, position? env drawnName = some position) ∧
      ¬ position? env drawnName = some true ↔ position? env drawnName = some false := by
    rcases position? env drawnName with _ | _ | _ <;> simp
  rw [← hsecret, ← hposition, ← hswitch, ← hswitch]
  simp [Check.inOrder, Check.fault?, and_assoc]

end Load

/-- What it means that settings fail safe, whatever the variables are and the file holds. -/
structure FailsSafe (env : Environment) (readFile : String → Except String (List UInt8)) :
    Prop where
  release : ∀ st, load env .release readFile = .ok st ↔
    Says env secureName st.cookieSecure ∧ Says env drawnName false ∧
      ∃ origin secret enough, material? env readFile = some (origin, secret) ∧
        64 ≤ secret.length ∧ st.key = .derived secret enough
  debug : (∃ e, load env .debug readFile = .error e) ↔
    ∃ origin secret, material? env readFile = some (origin, secret) ∧ secret.length < 32
  drawn : (∃ st, load env .debug readFile = .ok st ∧ st.key = .drawn) ↔
    (env secretName = none ∨ env secretName = some "") ∧
      ∃ reason, readFile (keyFile env) = .error reason
  secure : ∀ st, load env .debug readFile = .ok st →
    Says env secureName st.cookieSecure ∨
      st.cookieSecure = true ∧ ∀ position, ¬ Says env secureName position
  derived : ∀ mode st secret enough, load env mode readFile = .ok st →
    st.key = .derived secret enough →
      mode.leastSecret ≤ secret.length ∧ ∃ origin, material? env readFile = some (origin, secret)
  short : ∀ mode origin secret, material? env readFile = some (origin, secret) →
    secret.length < mode.leastSecret → ∃ e, load env mode readFile = .error e
  replaced : ∀ mode secret, env secretName = some secret → secret ≠ "" →
    material? env readFile = some (.variable, Text.Utf8.encode secret) ∧
      ∀ readFile', load env mode readFile' = load env mode readFile
  first : ∀ mode e, load env mode readFile = .error e ↔
    Check.inOrder.findSome? (Check.fault? env mode readFile) = some e

/-- **Session settings fail safe.** A release build sets sessions up exactly if both switches are
set, no key may be drawn, and the secret has at least 64 bytes; the key is then derived from that
secret. A debug build fails exactly on a secret of fewer than 32 bytes and draws a key exactly if
there is none. In either build a key is derived from nothing but a secret that is long enough, a
secret in the variable is never replaced by the file, and what is reported is the fault of the first
check that finds one. -/
theorem settings_fail_safe (env : Environment) (readFile : String → Except String (List UInt8)) :
    FailsSafe env readFile := by
  have hexists : ∀ mode, (∃ st, load env mode readFile = .ok st) ↔
      Check.inOrder.findSome? (Check.fault? env mode readFile) = none :=
    fun mode => exists_load_iff env readFile mode
  constructor
  case release =>
    intro st
    simp only [← position?_eq_some_iff]
    constructor
    · intro hload
      have hsound := sound_of_load hload
      obtain ⟨⟨secure, hsecure⟩, hdrawn, origin, secret, hmaterial, hlong⟩ :=
        no_fault_release_iff.mp ((hexists .release).mp ⟨st, hload⟩)
      obtain ⟨-, enough, hkey⟩ := hsound.derived origin secret hmaterial
      have hsame := hsound.secure
      rw [hsecure, Option.getD_some] at hsame
      exact ⟨hsame ▸ hsecure, hdrawn, origin, secret, enough, hmaterial, hlong, hkey⟩
    · rintro ⟨hsecure, hdrawn, origin, secret, enough, hmaterial, hlong, hkey⟩
      obtain ⟨st', hload⟩ := (hexists .release).mpr
        (no_fault_release_iff.mpr ⟨⟨_, hsecure⟩, hdrawn, origin, secret, hmaterial, hlong⟩)
      have hsound := sound_of_load hload
      obtain ⟨-, enough', hkey'⟩ := hsound.derived origin secret hmaterial
      have hsame := hsound.secure
      rw [hsecure, Option.getD_some] at hsame
      rw [hload]
      cases st
      cases st'
      cases hkey
      cases hkey'
      cases hsame
      rfl
  case debug =>
    simp only [load_eq_error_iff]
    exact exists_fault_debug_iff
  case drawn =>
    rw [← material?_eq_none_iff]
    constructor
    · rintro ⟨st, hload, hkey⟩
      rcases hmaterial : material? env readFile with _ | ⟨origin, secret⟩
      · rfl
      · obtain ⟨-, enough, hderived⟩ := (sound_of_load hload).derived origin secret hmaterial
        exact absurd (hkey.symm.trans hderived) nofun
    · intro hmaterial
      have hfaultless : Check.inOrder.findSome? (Check.fault? env .debug readFile) = none := by
        rw [Option.eq_none_iff_forall_ne_some]
        intro e hfault
        obtain ⟨origin, secret, hsome, -⟩ := exists_fault_debug_iff.mp ⟨e, hfault⟩
        exact absurd (hmaterial.symm.trans hsome) nofun
      obtain ⟨st, hload⟩ := (hexists .debug).mpr hfaultless
      exact ⟨st, hload, ((sound_of_load hload).drawn hmaterial).2⟩
  case secure =>
    intro st hload
    simp only [← position?_eq_some_iff]
    rw [(sound_of_load hload).secure]
    cases position? env secureName <;> simp
  case derived =>
    intro mode st secret enough hload hkey
    have hsound := sound_of_load hload
    rcases hmaterial : material? env readFile with _ | ⟨origin, secret'⟩
    · exact absurd (hkey.symm.trans (hsound.drawn hmaterial).2) nofun
    · obtain ⟨hlong, enough', hkey'⟩ := hsound.derived origin secret' hmaterial
      cases hkey.symm.trans hkey'
      exact ⟨hlong, origin, rfl⟩
  case short =>
    intro mode origin secret hmaterial hshort
    cases hload : load env mode readFile with
    | error e => exact ⟨e, rfl⟩
    | ok st =>
      have hlong := ((sound_of_load hload).derived origin secret hmaterial).1
      exact absurd hshort (Nat.not_lt.mpr hlong)
  case replaced =>
    intro mode secret hset hne
    have hmaterial : ∀ file : String → Except String (List UInt8),
        material? env file = some (.variable, Text.Utf8.encode secret) :=
      fun file => material?_of_secret hset hne
    refine ⟨hmaterial readFile, fun readFile' => ?_⟩
    simp only [load, chooseKey_of_material (hmaterial _)]
  case first =>
    exact fun mode e => load_eq_error_iff

end Rulebook.SessionSettings
