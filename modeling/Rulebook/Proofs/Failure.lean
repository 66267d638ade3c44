import Mathlib.Tactic.MkIffOfInductiveProp
import Rulebook.Failure
import Rulebook.Proofs.Json.RoundTrip
import Rulebook.Proofs.Json.Shape
import Rulebook.Proofs.Text.Blank

/-!
# Failures written and read back

However a failure comes about (`Failure.Made`), in whatever scopes of trace ids, it says something,
and it is read back from its value with the trace id it has: an id that is in scope where it is read
is not taken over. Only details that are null are read as none. An object is read as a failure
unless its code is no spelling of one, its message is no text or a blank one, or its trace id is
something other than null and a text (`Failure.Unfit`); all this is `failures_survive_writing`.

The value can go through a text on the way, its members in any order, as far as the text of the
details is read back (`Failure.Made.decodeText_render`).
-/

namespace Rulebook

open Json (Raw ReadBack ReadsAs decodeText decodeWith memberOf readsAs_any readsAs_choice
  readsAs_text)
open Json.Raw (Choice Defaulted Fields Maybe Required Value defaulted_text_iff defaulted_value_iff
  required_text_iff)
open Json.Reading (map_eq_ok_iff seq_eq_ok_iff)
open Json.Record (memberOf_eq_some_iff orElse_eq_ok_iff required_eq_ok_iff)

/-! ## Codes -/

namespace FailureCode

/-- The spellings of a code: its name, and an object that binds the name to null. -/
@[mk_iff]
inductive Spelling (c : FailureCode) : Json → Prop
  | name : Spelling c (.string c.name)
  | bound : Spelling c (.object [(c.name, .null)])

theorem lookup_name_iff {s : String} {c : FailureCode} :
    (all.map fun c => (c.name, c)).lookup s = some c ↔ s = c.name := by
  constructor
  · intro h
    obtain ⟨before, after, hsplit, -⟩ := List.lookup_eq_some_iff.mp h
    have hmem : (s, c) ∈ all.map fun c => (c.name, c) := by simp [hsplit]
    obtain ⟨c', -, hpair⟩ := List.mem_map.mp hmem
    cases hpair
    rfl
  · rintro rfl
    cases c <;> decide

/-- A value is read as a code where it spells it. -/
theorem choice_raw_iff {v : Json} {c : FailureCode} :
    Choice (all.map fun c => (c.name, c)) v.raw c ↔ c.Spelling v := by
  have hbound : v.raw = .object [(some c.name, .null)] ↔ v = .object [(c.name, .null)] := by
    cases v with
    | object members =>
      rcases members with _ | ⟨⟨k, w⟩, _ | ⟨m, ms⟩⟩ <;>
        simp [Json.raw, Json.rawMembers_eq_map, Json.raw_eq_null_iff]
    | _ => simp [Json.raw]
  simp only [Choice, lookup_name_iff, exists_eq_left, spelling_iff, Json.raw_eq_string_iff, hbound]

theorem required_choice_iff {member : Option Json} {c : FailureCode} :
    Required (Choice (all.map fun c => (c.name, c))) (member.map Json.raw) c ↔
      ∃ v, member = some v ∧ c.Spelling v := by
  simp [Required, choice_raw_iff]

end FailureCode

namespace Failure

variable {scope : Option TraceId} {f g : Failure} {code : FailureCode} {message : String}
  {members : List (String × Json)}

theorem parts_injective (h : f.parts = g.parts) : f = g := by
  cases f
  cases g
  cases h
  rfl

/-! ## Making -/

/-- A message is refused if it is blank. -/
theorem tryNew_of_blank (h : Text.trim message = "") :
    tryNew scope code message = .error .emptyMessage := by
  rw [tryNew, dif_neg]
  simp [Text.trim_eq_empty_iff.mp h]

/-- A message that says something is taken, with the trace id that is in scope. -/
theorem tryNew_eq_ok_iff : tryNew scope code message = .ok f ↔
    Text.trim message ≠ "" ∧ f.parts = ⟨code, message, scope.map TraceId.render, none⟩ := by
  unfold tryNew
  split
  · next hspeaks =>
    rw [Except.ok.injEq]
    constructor
    · rintro rfl
      exact ⟨Text.trim_ne_empty hspeaks, rfl⟩
    · exact fun h => parts_injective h.2.symm
  · next hspeaks =>
    refine iff_of_false nofun fun h => h.1 (Text.trim_eq_empty_iff.mpr ?_)
    simpa using hspeaks

/-- What is made of any message: a blank one becomes the general one of the code. -/
theorem parts_new : (new scope code message).parts =
    ⟨code, if Text.trim message = "" then code.generalMessage else message,
      scope.map TraceId.render, none⟩ := by
  by_cases hblank : Text.trim message = ""
  · rw [if_pos hblank, new, tryNew_of_blank hblank]
    rfl
  · have hspeaks : Text.saysNothing message = false := by
      simpa [Text.trim_eq_empty_iff] using hblank
    have hnew : tryNew scope code message = .ok _ := dif_pos hspeaks
    rw [if_neg hblank, new, hnew]
    rfl

@[simp]
theorem code_new : (new scope code message).code = code :=
  congrArg Parts.code parts_new

@[simp]
theorem message_new : (new scope code message).message =
    if Text.trim message = "" then code.generalMessage else message :=
  congrArg Parts.message parts_new

@[simp]
theorem details_new : (new scope code message).details = none :=
  congrArg Parts.details parts_new

/-- Parts make the failure they are the parts of, whatever is in scope. -/
theorem ofParts_eq_ok_iff {p : Parts} : ofParts scope p = .ok f ↔ p = f.parts := by
  constructor
  · intro h
    unfold ofParts at h
    cases hnew : tryNew scope p.code p.message with
    | error e =>
      rw [hnew] at h
      cases h
    | ok g =>
      rw [hnew] at h
      cases h
      obtain ⟨-, hparts⟩ := tryNew_eq_ok_iff.mp hnew
      cases p
      cases g
      cases hparts
      rfl
  · rintro rfl
    have hnew : tryNew scope f.code f.message = .ok _ := dif_pos f.message_notBlank
    rw [ofParts, parts, hnew]
    rfl

/-! ## Reading -/

/-- What the fields of a failure tell. -/
@[mk_iff]
structure Parts.Told (field : String → Option Raw) (p : Parts) : Prop where
  code : Required (Choice (FailureCode.all.map fun c => (c.name, c))) (field "code") p.code
  message : Required Json.Raw.Text (field "message") p.message
  traceId : Defaulted none (Maybe Json.Raw.Text) (field "traceId") p.traceId
  details : Defaulted none (Maybe Value) (field "details") p.details

theorem Parts.readsAs : ReadsAs Parts.read (Fields fieldNames Told) := by
  refine ReadsAs.record fun r p => ?_
  cases p
  simp [told_iff, seq_eq_ok_iff, map_eq_ok_iff, required_eq_ok_iff (readsAs_choice _),
    required_eq_ok_iff readsAs_text, orElse_eq_ok_iff readsAs_text.optional,
    orElse_eq_ok_iff readsAs_any.optional, FailureCode.read, and_assoc]

/-- What is read does not depend on the trace id that is in scope. -/
theorem readIn_eq_ok_iff {tree : Raw} :
    readIn scope tree = .ok f ↔ Parts.read tree = .ok f.parts := by
  unfold readIn
  cases Parts.read tree with
  | error e => simp
  | ok p =>
    rw [Except.ok.injEq, ← @ofParts_eq_ok_iff scope]
    dsimp only
    rcases ofParts scope p with ⟨⟨⟩⟩ | g <;> simp

/-- The members of an object tell what a failure is. -/
@[mk_iff]
structure Told (members : List (String × Json)) (f : Failure) : Prop where
  code : ∃ v, memberOf "code" members = some v ∧ f.code.Spelling v
  message : memberOf "message" members = some (.string f.message)
  traceId : (memberOf "traceId" members).getD .null = Json.ofText? f.traceId
  details : (memberOf "details" members).getD .null = f.details.getD .null ∧
    f.details ≠ some .null

/-- An object is read as the failure its members tell of. -/
theorem decodeWith_object_iff (hnodup : (members.map Prod.fst).Nodup)
    (hordered : ∀ m ∈ members, m.2.Ordered) :
    decodeWith (readIn scope) (.object members) = .ok f ↔ f.Told members := by
  have hmember : ∀ v, memberOf "details" members = some v → v.Ordered := fun v hv =>
    hordered _ ((memberOf_eq_some_iff hnodup).mp hv)
  rw [decodeWith, Json.raw, readIn_eq_ok_iff, Parts.readsAs _ _,
    Json.Raw.fields_rawMembers_iff hnodup, Parts.told_iff, told_iff]
  simp [Parts.fieldNames, parts, FailureCode.required_choice_iff, required_text_iff,
    defaulted_text_iff, defaulted_value_iff hmember]

/-- What keeps the members of an object from being a failure. -/
inductive Unfit (members : List (String × Json)) : Prop
  /-- The code is missing, or it is no spelling of one. -/
  | code (h : ∀ v c, memberOf "code" members = some v → ¬ FailureCode.Spelling c v)
  /-- The message is missing, no text, or blank. -/
  | message (h : ∀ s, memberOf "message" members = some (.string s) → Text.trim s = "")
  /-- The trace id is there, but neither null nor a text. -/
  | traceId (v : Json) (h : memberOf "traceId" members = some v) (hnull : v ≠ .null)
      (htext : ∀ s, v ≠ .string s)

/-- Members that tell of a failure are fit. -/
theorem Told.not_unfit (h : f.Told members) : ¬ Unfit members
  | .code hcode => by
    obtain ⟨v, hv, hspelling⟩ := h.code
    exact hcode v _ hv hspelling
  | .message hmessage => Text.trim_ne_empty f.message_notBlank (hmessage _ h.message)
  | .traceId v hv hnull htext => by
    have htraceId := h.traceId
    rw [hv, Option.getD_some] at htraceId
    cases hid : f.traceId with
    | none => exact hnull (htraceId.trans (by rw [hid]; rfl))
    | some id => exact htext id (htraceId.trans (by rw [hid]; rfl))

/-- Details that are null are none. -/
theorem Told.details_eq_none (h : f.Told members)
    (hnull : memberOf "details" members = some .null) : f.details = none := by
  obtain ⟨hvalue, hsome⟩ := h.details
  rw [hnull, Option.getD_some] at hvalue
  cases hd : f.details with
  | none => rfl
  | some d =>
    rw [hd, Option.getD_some] at hvalue
    exact absurd (hvalue ▸ hd) hsome

/-- A member that may be null or missing is either as an optional text is written, or something
else. -/
theorem ofText?_or_other (member : Option Json) :
    (∃ o, member.getD .null = Json.ofText? o) ∨
      ∃ v, member = some v ∧ v ≠ .null ∧ ∀ s, v ≠ .string s := by
  rcases member with _ | v
  · exact .inl ⟨none, rfl⟩
  cases v with
  | null => exact .inl ⟨none, rfl⟩
  | string s => exact .inl ⟨some s, rfl⟩
  | _ => exact .inr ⟨_, rfl, nofun, nofun⟩

/-- Members that are fit tell of a failure. -/
theorem exists_told (h : ¬ Unfit members) : ∃ f : Failure, f.Told members := by
  obtain ⟨code, v, hv, hspelling⟩ :
      ∃ (c : FailureCode) (v : Json), memberOf "code" members = some v ∧ c.Spelling v := by
    by_contra hnone
    exact h (.code fun v c hv hspelling => hnone ⟨c, v, hv, hspelling⟩)
  obtain ⟨message, hmessage, hspeaks⟩ :
      ∃ s, memberOf "message" members = some (.string s) ∧ Text.trim s ≠ "" := by
    by_contra hnone
    exact h (.message fun s hs => by_contra fun hspeaks => hnone ⟨s, hs, hspeaks⟩)
  obtain ⟨traceId, htraceId⟩ :
      ∃ o, (memberOf "traceId" members).getD .null = Json.ofText? o := by
    rcases ofText?_or_other (memberOf "traceId" members) with htext | ⟨v, hv, hnull, htext⟩
    · exact htext
    · exact absurd (.traceId v hv hnull htext) h
  obtain ⟨details, hdetails⟩ : ∃ o : Option Json,
      (memberOf "details" members).getD .null = o.getD .null ∧ o ≠ some .null := by
    by_cases hnull : memberOf "details" members = some .null
    · exact ⟨none, by rw [hnull]; rfl, nofun⟩
    · exact ⟨_, rfl, hnull⟩
  have hnotBlank : Text.saysNothing message = false := by
    simpa [Text.trim_eq_empty_iff] using hspeaks
  exact ⟨⟨code, message, traceId, details, hnotBlank⟩, ⟨v, hv, hspelling⟩, hmessage, htraceId,
    hdetails⟩

/-- An object is not read as a failure exactly if it is unfit. -/
theorem decodeWith_object_eq_error_iff (hnodup : (members.map Prod.fst).Nodup)
    (hordered : ∀ m ∈ members, m.2.Ordered) :
    (∃ e, decodeWith (readIn scope) (.object members) = .error e) ↔ Unfit members := by
  constructor
  · rintro ⟨e, he⟩
    by_contra hfit
    obtain ⟨f, hf⟩ := exists_told hfit
    cases he.symm.trans ((decodeWith_object_iff hnodup hordered).mpr hf)
  · intro hunfit
    cases hread : decodeWith (readIn scope) (.object members) with
    | error e => exact ⟨e, rfl⟩
    | ok f => exact absurd hunfit ((decodeWith_object_iff hnodup hordered).mp hread).not_unfit

/-! ## What comes about -/

/-- How a failure of a code comes about, the message being what was to be said: it is made or read,
each time in a scope of its own, and then given trace ids and details. Details are values, so they
are in order. -/
inductive Made : FailureCode → String → Failure → Prop
  | new (scope : Option TraceId) (code : FailureCode) (message : String) :
    Made code message (.new scope code message)
  | tryNew {scope : Option TraceId} {code : FailureCode} {message : String} {f : Failure}
    (h : Failure.tryNew scope code message = .ok f) : Made code message f
  | invalidRequest (scope : Option TraceId) (message : String) :
    Made .invalidRequest message (.invalidRequest scope message)
  | unauthorized (scope : Option TraceId) (message : String) :
    Made .unauthorized message (.unauthorized scope message)
  | notFound (scope : Option TraceId) (message : String) :
    Made .notFound message (.notFound scope message)
  | platformError (scope : Option TraceId) (message : String) :
    Made .platformError message (.platformError scope message)
  | internalError (scope : Option TraceId) (message : String) :
    Made .internalError message (.internalError scope message)
  | withTraceId {code : FailureCode} {message : String} {f : Failure} (h : Made code message f)
    (id : String) : Made code message (f.withTraceId id)
  | withDetails {code : FailureCode} {message : String} {f : Failure} (h : Made code message f)
    {details : Json} (hdetails : details.Ordered) : Made code message (f.withDetails details)
  | read {scope : Option TraceId} {tree : Raw} {f : Failure} (h : readIn scope tree = .ok f) :
    Made f.code f.message f

/-- The code is kept, and so is the message, unless it is blank: then it is the general one. -/
theorem Made.code_and_message (h : f.Made code message) : f.code = code ∧
    f.message = if Text.trim message = "" then code.generalMessage else message := by
  induction h with
  | new | invalidRequest | unauthorized | notFound | platformError | internalError =>
    exact ⟨code_new, message_new⟩
  | tryNew h =>
    obtain ⟨hspeaks, hparts⟩ := tryNew_eq_ok_iff.mp h
    rw [if_neg hspeaks]
    exact ⟨congrArg Parts.code hparts, congrArg Parts.message hparts⟩
  | withTraceId _ _ ih => exact ih
  | withDetails _ _ ih => exact ih
  | @read _ _ f _ =>
    rw [if_neg (Text.trim_ne_empty f.message_notBlank)]
    exact ⟨rfl, rfl⟩

/-- The details of a failure are in order. -/
theorem Made.ordered_details (h : f.Made code message) : ∀ d, f.details = some d → d.Ordered := by
  induction h with
  | new | invalidRequest | unauthorized | notFound | platformError | internalError =>
    intro d hd
    cases hd.symm.trans details_new
  | tryNew h =>
    intro d hd
    cases hd.symm.trans (congrArg Parts.details (tryNew_eq_ok_iff.mp h).2)
  | withTraceId _ _ ih => exact ih
  | withDetails _ hdetails =>
    rintro d ⟨⟩
    exact hdetails
  | @read scope tree f h =>
    intro d hd
    obtain ⟨field, -, htold⟩ := (Parts.readsAs tree f.parts).mp (readIn_eq_ok_iff.mp h)
    have hdetails : Defaulted none (Maybe Value) (field "details") (some d) :=
      hd ▸ htold.details
    cases hfield : field "details" with
    | none =>
      rw [hfield] at hdetails
      cases hdetails
    | some tree =>
      rw [hfield] at hdetails
      exact Json.Raw.ordered_of_value? hdetails.2

/-! ## Read back -/

/-- What is found among the members of parts. -/
theorem memberOf_members (p : Parts) : memberOf "code" p.members = some p.code.toJson ∧
    memberOf "message" p.members = some (.string p.message) ∧
    memberOf "traceId" p.members = p.traceId.map .string ∧
    memberOf "details" p.members = p.details := by
  obtain ⟨_, _, _ | _, _ | _⟩ := p <;> simp [Parts.members, optionalMember, memberOf]

theorem nodup_members (p : Parts) : (p.members.map Prod.fst).Nodup := by
  obtain ⟨_, _, _ | _, _ | _⟩ := p <;> simp [Parts.members, optionalMember]

theorem eq_some_of_mem_optionalMember {key : String} {value : Option Json} {m : String × Json}
    (h : m ∈ optionalMember key value) : value = some m.2 := by
  cases value with
  | none => cases h
  | some v =>
    cases List.mem_singleton.mp h
    rfl

/-- The members of parts are texts, the details apart. -/
theorem text_or_details_of_mem {p : Parts} {m : String × Json} (h : m ∈ p.members) :
    (∃ s, m.2 = .string s) ∨ p.details = some m.2 := by
  simp only [Parts.members, List.mem_append, List.mem_singleton] at h
  rcases h with ((rfl | hdetails) | rfl) | htraceId
  · exact .inl ⟨_, rfl⟩
  · exact .inr (eq_some_of_mem_optionalMember hdetails)
  · exact .inl ⟨_, rfl⟩
  · obtain ⟨id, -, hid⟩ :=
      Option.map_eq_some_iff.mp (eq_some_of_mem_optionalMember htraceId)
    exact .inl ⟨id, hid.symm⟩

/-- The members of a failure tell of it, with its details unless they are null. -/
theorem told_members {details : Option Json} (h : f.details.getD .null = details.getD .null)
    (hnull : details ≠ some .null) : Told f.parts.members { f with details := details } := by
  obtain ⟨hcode, hmessage, htraceId, hdetails⟩ := memberOf_members f.parts
  refine ⟨⟨_, hcode, .name⟩, hmessage, ?_, ?_, hnull⟩
  · rw [htraceId]
    change (f.traceId.map Json.string).getD .null = Json.ofText? f.traceId
    cases f.traceId <;> rfl
  · rw [hdetails]
    exact h

/-- Objects with the same members tell of the same failures. -/
theorem Told.of_perm (h : f.Told members) (hnodup : (members.map Prod.fst).Nodup)
    {written : List (String × Json)} (hperm : written.Perm members) : f.Told written := by
  have hfound : ∀ name, memberOf name written = memberOf name members := fun name => by
    ext v
    rw [memberOf_eq_some_iff hnodup,
      memberOf_eq_some_iff ((hperm.map Prod.fst).nodup_iff.mpr hnodup), hperm.mem_iff]
  rw [told_iff] at h ⊢
  simpa only [hfound] using h

namespace Made

variable (h : f.Made code message)

include h

theorem ordered_of_mem {m : String × Json} (hm : m ∈ f.parts.members) : m.2.Ordered := by
  rcases text_or_details_of_mem hm with ⟨s, hs⟩ | hdetails
  · rw [hs]
    trivial
  · exact h.ordered_details _ hdetails

/-- A failure is read back from its value, with its details unless they are null. -/
theorem decodeWith_toJson (scope : Option TraceId) {details : Option Json}
    (hdetails : f.details.getD .null = details.getD .null) (hnull : details ≠ some .null) :
    decodeWith (readIn scope) f.toJson = .ok { f with details := details } :=
  (decodeWith_object_iff (nodup_members _) fun _ => h.ordered_of_mem).mpr
    (told_members hdetails hnull)

/-- A failure is read back from its text, in whatever order its members are written, if its details
are. -/
theorem decodeText_render (scope : Option TraceId) (hnull : f.details ≠ some .null)
    (hdetails : ∀ d, f.details = some d → ReadBack 126 d) {written : List (String × Json)}
    (hperm : written.Perm f.parts.members) :
    decodeText (readIn scope) (Json.object written).render = .ok f := by
  have hnodup := nodup_members f.parts
  have hvalue : decodeWith (readIn scope) (.object written) = .ok f :=
    (decodeWith_object_iff ((hperm.map Prod.fst).nodup_iff.mpr hnodup) fun m hm =>
      h.ordered_of_mem (hperm.mem_iff.mp hm)).mpr ((told_members rfl hnull).of_perm hnodup hperm)
  have hback : ∀ m ∈ written, ReadBack 126 m.2 := by
    intro m hm
    rcases text_or_details_of_mem (hperm.mem_iff.mp hm) with ⟨s, hs⟩ | hd
    · have hlegible : Json.Legible 126 m.2 := by
        rw [hs]
        trivial
      exact hlegible.readBack
    · exact hdetails _ hd
  cases written with
  | nil => cases hperm.length_eq
  | cons m ms => rw [(ReadBack.object m ms hback).decodeText_render, hvalue]

end Made

/-- What is kept of a failure that was made of a code and a message. -/
structure Survives (code : FailureCode) (message : String) (f : Failure) : Prop where
  code_eq : f.code = code
  message_eq : f.message = if Text.trim message = "" then code.generalMessage else message
  notBlank : Text.trim f.message ≠ ""
  readBack : f.details ≠ some .null →
    ∀ scope, decodeWith (readIn scope) f.toJson = .ok f
  nullDropped : f.details = some .null →
    ∀ scope, decodeWith (readIn scope) f.toJson = .ok { f with details := none }

/-- What is read from an object where a trace id is in scope. -/
structure ReadExactly (scope : Option TraceId) (members : List (String × Json)) : Prop where
  told : ∀ f, decodeWith (readIn scope) (.object members) = .ok f ↔ f.Told members
  refused : (∃ e, decodeWith (readIn scope) (.object members) = .error e) ↔ Unfit members
  nullDropped : memberOf "details" members = some .null →
    ∀ f, decodeWith (readIn scope) (.object members) = .ok f → f.details = none

end Failure

/-- **Failures survive writing.** Whatever is done to a failure, in whatever scopes, it has the code
and the message it was made of, or the general message if that is blank; it is read back from its
value in any scope, its trace id as it is, and only null details get lost. An object is read as what
its members tell, details that are null as none, and it is refused exactly if it is unfit. -/
theorem failures_survive_writing :
    (∀ code message (f : Failure), f.Made code message → f.Survives code message) ∧
    ∀ members, (Json.object members).Ordered → ∀ scope, Failure.ReadExactly scope members := by
  constructor
  · intro code message f hmade
    obtain ⟨hcode, hmessage⟩ := hmade.code_and_message
    exact {
      code_eq := hcode
      message_eq := hmessage
      notBlank := Text.trim_ne_empty f.message_notBlank
      readBack := fun hnull scope => hmade.decodeWith_toJson scope rfl hnull
      nullDropped := fun hnull scope => hmade.decodeWith_toJson scope (by rw [hnull]; rfl) nofun }
  · intro members hobject scope
    rw [Json.Ordered] at hobject
    have hnodup := Json.nodup_names hobject.1
    have hordered := Json.orderedMembers_iff.mp hobject.2
    have htold : ∀ f, decodeWith (Failure.readIn scope) (.object members) = .ok f ↔
        f.Told members := fun f => Failure.decodeWith_object_iff hnodup hordered
    exact {
      told := htold
      refused := Failure.decodeWith_object_eq_error_iff hnodup hordered
      nullDropped := fun hnull f hf => ((htold f).mp hf).details_eq_none hnull }

/-- Two failures read where another trace id is in scope: one of a blank message keeps its id, one
without an id gets none and loses its null. An object with a blank message is refused there. -/
theorem failures_read_in_other_scope :
    let here : TraceId := ⟨List.replicate 32 0, by decide⟩
    let there : TraceId := ⟨List.replicate 32 1, by decide⟩
    let outage := (Failure.platformError (some here) "\u3000").withDetails
      (.object [("attempt", .null), ("field", .string "name")])
    let gone := Failure.notFound none "gone"
    outage.message = "Speckle request failed" ∧
      decodeWith (Failure.readIn (some there)) outage.toJson = .ok outage ∧
      decodeWith (Failure.readIn (some there)) (gone.withDetails .null).toJson = .ok gone ∧
      ∃ e, decodeWith (Failure.readIn (some there)) (.object
        [("code", .object [("not_found", .null)]), ("message", .string "\u3000")]) = .error e := by
  intro here there outage gone
  have houtage := failures_survive_writing.1 .platformError "\u3000" outage
    (.withDetails (.platformError _ _) ⟨by decide, trivial, trivial, trivial⟩)
  have hgone := failures_survive_writing.1 .notFound "gone" (gone.withDetails .null)
    (.withDetails (.notFound _ _) trivial)
  have hobject := failures_survive_writing.2
    [("code", .object [("not_found", .null)]), ("message", .string "\u3000")]
    ⟨by decide, ⟨by decide, trivial, trivial⟩, trivial, trivial⟩ (some there)
  have hblank : Text.trim "\u3000" = "" := Text.trim_eq_empty_iff.mpr (by decide)
  refine ⟨?_, houtage.readBack nofun _, hgone.nullDropped rfl _, hobject.refused.mpr (.message ?_)⟩
  · rw [houtage.message_eq, if_pos hblank]
    rfl
  · rintro s ⟨⟩
    exact hblank

end Rulebook
