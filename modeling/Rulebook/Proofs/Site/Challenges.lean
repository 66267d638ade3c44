import Mathlib.Data.List.Infix
import Rulebook.Proofs.Site.Automaton

/-!
# Challenges are used once

`Watch` runs the automaton of every browser beside the application. The sessions follow it along a
run exactly as long as every session of a user who logs in can be saved, and then each challenge is
exchanged at most once, by a callback of the browser it is pending for (`challenges_used_once`). The
invariant is `Watch.Sound`: a pending challenge was drawn, is pending for one browser only and has
never been exchanged.
-/

namespace Rulebook

/-- The application and, beside it, the automaton of every browser. -/
structure Watch where
  scene : Scene
  standings : Nat → Standing

namespace Watch

/-- Nothing has happened. -/
def start : Watch :=
  ⟨Scene.start, fun _ => .none⟩

/-- One turn later. -/
def next (s : Setting) (w : Watch) (t : Turn) : Watch :=
  ⟨w.scene.next s t,
    fun b => if b = t.browser then (w.standings b).next (w.scene.event s t) else w.standings b⟩

theorem next_scene (s : Setting) (w : Watch) (t : Turn) : (w.next s t).scene = w.scene.next s t :=
  rfl

/-- A run of turns later. -/
def after (s : Setting) (turns : List Turn) : Watch :=
  turns.foldl (next s) start

/-- Every session has the entries that the automaton says. -/
def Agrees (w : Watch) : Prop :=
  ∀ b, (w.scene.cookies b).getD [] = (w.standings b).entries

end Watch

/-! ## Exchanges -/

/-- How often some questions exchange a code for a challenge. -/
def exchanges (c : ChallengeId) (questions : List PlatformCall) : Nat :=
  questions.countP fun
    | .exchangeCode _ _ d => d = c
    | _ => false

theorem exchanges_append (c : ChallengeId) (xs ys : List PlatformCall) :
    exchanges c (xs ++ ys) = exchanges c xs + exchanges c ys :=
  List.countP_append

/-- Questions asked on behalf of the user of a session exchange nothing. -/
theorem exchanges_of_serves {around : Surroundings} {w : World} {session : Session}
    {questions : List PlatformCall}
    (h : ∀ call ∈ questions, Site.Serves around w session call) (c : ChallengeId) :
    exchanges c questions = 0 := by
  rw [exchanges, List.countP_eq_zero]
  intro call hcall
  obtain ⟨user, token, -, -, hbrowses⟩ := h call hcall
  cases call <;> first | exact hbrowses.elim | simp

/-- The end of a login exchanges a code at most once, and only for the challenge at hand. -/
theorem exchanges_questions (around : Surroundings) (credentials : Option AppCredentials)
    (code : Option AccessCode) (challenge : Option ChallengeId) (c : ChallengeId) :
    exchanges c (Login.questions around credentials code challenge) ≤
      if challenge = some c then 1 else 0 := by
  unfold Login.questions
  split
  · next credentials code d =>
    by_cases hd : d = c
    · split <;> simp [exchanges, hd]
    · split <;> simp [exchanges, hd]
  · exact Nat.zero_le _

namespace Scene

variable {s : Setting} {p : Scene} {t : Turn} {st : Standing}

/-- A code is exchanged by a callback only, which brings the code along, and for the challenge of
the session the callback comes with. -/
theorem of_exchangeCode {c : AppCredentials} {k : AccessCode} {ch : ChallengeId}
    (h : .exchangeCode c k ch ∈ p.questions s t) :
    t.endpoint = some .loginCallback ∧
      (∃ raw, t.accessCode = .ok raw ∧ AccessCode.parse raw = some k) ∧
      (p.session t).takeChallenge.1 = some ch := by
  rcases p.questions_cases s t with ⟨raw, hcallback, hcode, hquestions⟩ | hserves
  · rw [hquestions] at h
    obtain ⟨-, hparsed, hchallenge⟩ := Login.exchangeCode_mem_questions h
    exact ⟨hcallback, ⟨raw, hcode, hparsed⟩, hchallenge⟩
  · obtain ⟨user, token, -, -, hbrowses⟩ := hserves _ h
    exact hbrowses.elim

/-- What a turn does to the pending challenge of its browser and to the draws, and how often it
exchanges a code. -/
theorem pending_next (s : Setting) (h : st.Held (p.cookies t.browser)) :
    ((st.next (p.event s t)).pending = some (s.challenge p.world.challengesDrawn) ∧
        (p.next s t).world.challengesDrawn = p.world.challengesDrawn + 1 ∧
        ∀ c, exchanges c (p.questions s t) = 0) ∨
      ((st.next (p.event s t)).pending = st.pending ∧
        p.world.challengesDrawn ≤ (p.next s t).world.challengesDrawn ∧
        ∀ c, exchanges c (p.questions s t) = 0) ∨
      ((st.next (p.event s t)).pending = none ∧
        (p.next s t).world.challengesDrawn = p.world.challengesDrawn ∧
        ∀ c, exchanges c (p.questions s t) ≤ if st.pending = some c then 1 else 0) := by
  have hother : t.endpoint ≠ some .loginCallback → ∀ c, exchanges c (p.questions s t) = 0 := by
    intro hne c
    rcases p.questions_cases s t with ⟨_, hcallback, -⟩ | hserves
    · exact absurd hcallback hne
    · exact exchanges_of_serves hserves c
  have hany : ∀ c, exchanges c (p.questions s t) ≤ if st.pending = some c then 1 else 0 := by
    intro c
    rcases p.questions_cases s t with ⟨raw, -, -, hquestions⟩ | hserves
    · rw [hquestions, ← takeChallenge_session h]
      exact exchanges_questions _ _ _ _ c
    · rw [exchanges_of_serves hserves c]
      exact Nat.zero_le _
  have hcases := handled_cases s p t
  have hendpoint := event_endpoint s p t
  have hchallenge := event_challenge s p t
  have hstatus := event_status s p t
  rw [world_next]
  generalize p.event s t = e at *
  generalize p.handled s t = r at hcases hstatus
  cases hcases with
  | browsed hstart hcallback hlogout page hbrowsing response =>
    refine .inr (.inl ⟨?_, ?_, hother hcallback⟩)
    · rw [← hendpoint] at hstart hcallback hlogout
      rw [st.next_of_other hstart hcallback hlogout]
    · have hdrawn := Program.challengesDrawn_of_only (t.around s)
        (hbrowsing.harmless.mono fun _ hq => hq.2.1) p.world
      exact Nat.le_of_eq hdrawn.symm
  | loggedOut hlogout =>
    refine .inr (.inr ⟨?_, rfl, hany⟩)
    rw [st.next_logout (hendpoint.trans hlogout)]
    rfl
  | unconfigured hstart response hrefused =>
    have hne : t.endpoint ≠ some .loginCallback := by rw [hstart]; simp
    rw [session, (finish_untouched ..).2] at hstatus
    have h200 : e.status ≠ 200 := by
      dsimp only at hstatus
      omega
    refine .inr (.inl ⟨?_, Nat.le_refl _, hother hne⟩)
    rw [st.next_refused (hendpoint.trans hstart) h200]
  | begun hstart response hok =>
    have hne : t.endpoint ≠ some .loginCallback := by rw [hstart]; simp
    by_cases h200 : e.status = 200
    · refine .inl ⟨?_, rfl, hother hne⟩
      rw [st.next_begun (hendpoint.trans hstart) h200, hchallenge]
    · refine .inr (.inl ⟨?_, Nat.le_succ _, hother hne⟩)
      rw [st.next_refused (hendpoint.trans hstart) h200]
  | unreadable hcallback | failed hcallback | completed hcallback =>
    exact .inr (.inr ⟨st.pending_next_callback (hendpoint.trans hcallback), rfl, hany⟩)

end Scene

namespace Watch

variable {s : Setting} {w : Watch} {t : Turn}

theorem after_concat (s : Setting) (past : List Turn) (t : Turn) :
    after s (past ++ [t]) = (after s past).next s t := by
  simp [after]

/-! ## Sessions along a run -/

/-- Every cookie says what the standing of its browser is. -/
def Held (w : Watch) : Prop :=
  ∀ b, (w.standings b).Held (w.scene.cookies b)

theorem Held.start : Held start := by
  intro b
  exact ⟨rfl, by simp [Watch.start, Scene.start], by simp [Watch.start, Standing.none]⟩

theorem Held.agrees (h : w.Held) : w.Agrees :=
  fun b => (h b).entries_eq

/-- Either a turn does what the automaton says to all sessions, or the session it should save is too
long and the automaton is left. -/
theorem Held.next (s : Setting) (h : w.Held)
    (hreadable : t.endpoint = some .loginCallback → t.accessCode.isOk) :
    (¬ w.scene.Overflows s t ∧ (w.next s t).Held) ∨
      (w.scene.Overflows s t ∧ ¬ (w.next s t).Agrees) := by
  rcases Scene.held_next s (h t.browser) hreadable with ⟨hno, hheld⟩ | ⟨hlong, hsame, hne⟩
  · refine .inl ⟨hno, fun b => ?_⟩
    by_cases hb : b = t.browser
    · subst hb
      simpa [Watch.next] using hheld
    · simpa [Watch.next, Scene.next, hb] using h b
  · refine .inr ⟨hlong, fun hagrees => hne ?_⟩
    have hentries := hagrees t.browser
    simp only [Watch.next, hsame, ↓reduceIte] at hentries
    rw [← hentries]
    exact (h t.browser).entries_eq.symm

/-- No turn but a callback leaves the automaton. -/
theorem Held.next_of_ne (s : Setting) (h : w.Held) (hne : t.endpoint ≠ some .loginCallback) :
    (w.next s t).Held := by
  rcases h.next s (fun hcallback => absurd hcallback hne) with ⟨-, hnext⟩ | ⟨⟨login, hlogin, -⟩, -⟩
  · exact hnext
  · exact absurd (Scene.of_login hlogin).1 hne

/-- Every session of a user who logs in during a run can be saved. -/
def Saved (s : Setting) (turns : List Turn) : Prop :=
  ∀ past t, past ++ [t] <+: turns → ¬ (after s past).scene.Overflows s t

section Run

variable {turns : List Turn}
  (hreadable : ∀ t ∈ turns, t.endpoint = some .loginCallback → t.accessCode.isOk)

include hreadable

theorem Held.after
    (h : ∀ past t, past ++ [t] <+: turns →
      ¬ (after s past).scene.Overflows s t ∨ (after s (past ++ [t])).Agrees)
    (past : List Turn) (hpast : past <+: turns) : (after s past).Held := by
  induction past using List.reverseRecOn with
  | nil => exact Held.start
  | append_singleton past t ih =>
    have hheld := ih ((List.prefix_append past [t]).trans hpast)
    have ht : t ∈ turns := hpast.subset (by simp)
    rw [after_concat]
    rcases hheld.next s (hreadable t ht) with ⟨-, hnext⟩ | ⟨hlong, hleft⟩
    · exact hnext
    · rcases h past t hpast with hfits | hagrees
      · exact absurd hlong hfits
      · exact absurd (after_concat s past t ▸ hagrees) hleft

/-- The sessions follow the automaton along a run just when all of them can be saved. -/
theorem agrees_iff_saved :
    (∀ past, past <+: turns → (after s past).Agrees) ↔ Saved s turns := by
  constructor
  · intro hagrees past t hpast hlong
    have hheld := Held.after hreadable (fun past t h => .inr (hagrees _ h)) past
      ((List.prefix_append past [t]).trans hpast)
    rcases hheld.next s (hreadable t (hpast.subset (by simp))) with ⟨hfits, -⟩ | ⟨-, hleft⟩
    · exact hfits hlong
    · exact hleft (after_concat s past t ▸ hagrees _ hpast)
  · intro hsaved past hpast
    exact (Held.after hreadable (fun past t h => .inl (hsaved past t h)) past hpast).agrees

end Run

end Watch

/-! ## Challenges along a run -/

/-- Different draws, up to some number of them, are different challenges. -/
def Setting.Distinct (s : Setting) (n : Nat) : Prop :=
  ∀ i j, i < j → j < n → s.challenge i ≠ s.challenge j

/-- What is known of the challenges, from those that are pending, how many were drawn and how often
each was exchanged: a pending one was drawn, is pending for one browser only and was never
exchanged, and none was exchanged twice. -/
structure InOrder (s : Setting) (pending : Nat → Option ChallengeId) (n : Nat)
    (used : ChallengeId → Nat) : Prop where
  drawn : ∀ b c, pending b = some c → ∃ i < n, s.challenge i = c
  alone : ∀ b d c, pending b = some c → pending d = some c → b = d
  unused : ∀ b c, pending b = some c → used c = 0
  known : ∀ c, used c ≠ 0 → ∃ i < n, s.challenge i = c
  once : ∀ c, used c ≤ 1

namespace InOrder

variable {s : Setting} {pending : Nat → Option ChallengeId} {n : Nat} {used : ChallengeId → Nat}

theorem start (s : Setting) : InOrder s (fun _ => none) 0 (fun _ => 0) := by
  constructor <;> simp

/-- Draws that nobody keeps do no harm. -/
theorem mono (h : InOrder s pending n used) {m : Nat} (hle : n ≤ m) :
    InOrder s pending m used where
  drawn b c hc := by
    obtain ⟨i, hi, heq⟩ := h.drawn b c hc
    exact ⟨i, by omega, heq⟩
  alone := h.alone
  unused := h.unused
  known c hc := by
    obtain ⟨i, hi, heq⟩ := h.known c hc
    exact ⟨i, by omega, heq⟩
  once := h.once

/-- A fresh challenge differs from all that were drawn, and so from all that are pending elsewhere
or were exchanged. -/
theorem draw (h : InOrder s pending n used) (hdistinct : s.Distinct (n + 1)) (b : Nat) :
    InOrder s (Function.update pending b (some (s.challenge n))) (n + 1) used := by
  have hfresh : ∀ i < n, s.challenge i ≠ s.challenge n := fun i hi => hdistinct i n hi (by omega)
  have hsplit : ∀ d c, Function.update pending b (some (s.challenge n)) d = some c →
      (d = b ∧ s.challenge n = c) ∨ (d ≠ b ∧ pending d = some c) := by
    intro d c hd
    by_cases hdb : d = b
    · subst hdb
      rw [Function.update_self] at hd
      exact .inl ⟨rfl, Option.some.inj hd⟩
    · rw [Function.update_of_ne hdb] at hd
      exact .inr ⟨hdb, hd⟩
  have helsewhere : ∀ d, pending d ≠ some (s.challenge n) := by
    intro d hd
    obtain ⟨i, hi, heq⟩ := h.drawn d _ hd
    exact hfresh i hi heq
  refine ⟨fun d c hd => ?_, fun d e c hd he => ?_, fun d c hd => ?_, (h.mono (by omega)).known,
    h.once⟩
  · rcases hsplit d c hd with ⟨-, rfl⟩ | ⟨-, hd⟩
    · exact ⟨n, by omega, rfl⟩
    · exact (h.mono (Nat.le_succ n)).drawn d c hd
  · rcases hsplit d c hd with ⟨hdb, hc⟩ | ⟨-, hd'⟩ <;>
      rcases hsplit e c he with ⟨heb, hc'⟩ | ⟨-, he'⟩
    · exact hdb.trans heb.symm
    · exact absurd (hc ▸ he') (helsewhere e)
    · exact absurd (hc' ▸ hd') (helsewhere d)
    · exact h.alone d e c hd' he'
  · rcases hsplit d c hd with ⟨-, rfl⟩ | ⟨-, hd⟩
    · by_contra hne
      obtain ⟨i, hi, heq⟩ := h.known _ hne
      exact hfresh i hi heq
    · exact h.unused d c hd

/-- The challenge that is used up was pending here and nowhere else, and had never been used. -/
theorem use (h : InOrder s pending n used) (b : Nat) {more : ChallengeId → Nat}
    (hmore : ∀ c, more c ≤ if pending b = some c then 1 else 0) :
    InOrder s (Function.update pending b none) n (fun c => more c + used c) := by
  have hsplit : ∀ d c, Function.update pending b none d = some c → d ≠ b ∧ pending d = some c := by
    intro d c hd
    by_cases hdb : d = b
    · subst hdb
      rw [Function.update_self] at hd
      cases hd
    · rw [Function.update_of_ne hdb] at hd
      exact ⟨hdb, hd⟩
  have hzero : ∀ c, pending b ≠ some c → more c = 0 := by
    intro c hc
    have hle := hmore c
    rw [if_neg hc] at hle
    exact Nat.le_zero.mp hle
  refine ⟨fun d c hd => ?_, fun d e c hd he => ?_, fun d c hd => ?_, fun c hc => ?_, fun c => ?_⟩
  · exact h.drawn d c (hsplit d c hd).2
  · exact h.alone d e c (hsplit d c hd).2 (hsplit e c he).2
  · obtain ⟨hdb, hd⟩ := hsplit d c hd
    rw [h.unused d c hd, hzero c fun hb => hdb (h.alone d b c hd hb)]
  · by_cases hb : pending b = some c
    · exact h.drawn b c hb
    · rw [hzero c hb, Nat.zero_add] at hc
      exact h.known c hc
  · by_cases hb : pending b = some c
    · have hle := hmore c
      rw [if_pos hb] at hle
      rw [h.unused b c hb]
      exact hle
    · rw [hzero c hb, Nat.zero_add]
      exact h.once c

end InOrder

namespace Watch

variable {s : Setting} {w : Watch} {t : Turn}

/-- The challenges of a run are in order. -/
def Sound (s : Setting) (w : Watch) : Prop :=
  InOrder s (fun b => (w.standings b).pending) w.scene.world.challengesDrawn
    fun c => exchanges c w.scene.world.asked

/-- A turn keeps the challenges in order. -/
theorem Sound.next (h : w.Sound s) (hheld : w.Held)
    (hdistinct : s.Distinct (w.next s t).scene.world.challengesDrawn) : (w.next s t).Sound s := by
  have hupdate : (fun b => ((w.next s t).standings b).pending) =
      Function.update (fun b => (w.standings b).pending) t.browser
        ((w.standings t.browser).next (w.scene.event s t)).pending := by
    funext b
    by_cases hb : b = t.browser
    · subst hb
      simp [Watch.next]
    · simp [Watch.next, hb]
  have hasked : (fun c => exchanges c (w.next s t).scene.world.asked) =
      fun c => exchanges c (w.scene.questions s t) + exchanges c w.scene.world.asked := by
    funext c
    rw [← exchanges_append, ← w.scene.asked_next s t, next_scene]
  unfold Sound
  rw [hupdate, hasked, next_scene]
  rw [next_scene] at hdistinct
  rcases Scene.pending_next s (hheld t.browser) with
    ⟨hpending, hone, hnone⟩ | ⟨hpending, hle, hnone⟩ | ⟨hpending, heq, hfew⟩
  · rw [hone] at hdistinct ⊢
    simp only [hpending, hnone, Nat.zero_add]
    exact h.draw hdistinct t.browser
  · simp only [hpending, hnone, Nat.zero_add]
    rw [Function.update_eq_self]
    exact h.mono hle
  · rw [hpending, heq]
    exact h.use t.browser hfew

/-- Draws are only ever added. -/
theorem challengesDrawn_le_next (hheld : w.Held) :
    w.scene.world.challengesDrawn ≤ (w.next s t).scene.world.challengesDrawn := by
  rw [next_scene]
  rcases Scene.pending_next s (hheld t.browser) with ⟨-, h, -⟩ | ⟨-, h, -⟩ | ⟨-, h, -⟩ <;>
    omega

theorem Sound.after {turns : List Turn} (hheld : ∀ past, past <+: turns → (Watch.after s past).Held)
    (hdistinct : s.Distinct (Watch.after s turns).scene.world.challengesDrawn) :
    (Watch.after s turns).Sound s := by
  induction turns using List.reverseRecOn with
  | nil => exact InOrder.start s
  | append_singleton turns t ih =>
    have hlast : (Watch.after s turns).Held := hheld turns (List.prefix_append _ _)
    rw [after_concat] at hdistinct ⊢
    refine Sound.next (ih (fun past h => hheld past (h.trans (List.prefix_append _ _))) ?_) hlast
      hdistinct
    intro i j hij hj
    exact hdistinct i j hij (Nat.lt_of_lt_of_le hj (challengesDrawn_le_next hlast))

end Watch

/-- The sessions of all browsers follow the automaton along a run just when every session of a user
who logs in can be saved. In such a run a code is exchanged by a callback only, which brings the
code along, for the challenge that is pending for its browser; and no challenge is exchanged twice,
if no two draws are equal. A code is never blank, so a callback with a blank code or none exchanges
nothing. -/
theorem challenges_used_once (s : Setting) (turns : List Turn)
    (hdistinct : s.Distinct (Watch.after s turns).scene.world.challengesDrawn)
    (hreadable : ∀ t ∈ turns, t.endpoint = some .loginCallback → t.accessCode.isOk) :
    ((∀ past, past <+: turns → (Watch.after s past).Agrees) ↔ Watch.Saved s turns) ∧
      (Watch.Saved s turns →
        (∀ past t, past ++ [t] <+: turns → ∀ credentials code c,
          .exchangeCode credentials code c ∈ (Watch.after s past).scene.questions s t →
            t.endpoint = some .loginCallback ∧
            (∃ raw, t.accessCode = .ok raw ∧ AccessCode.parse raw = some code) ∧
            ((Watch.after s past).standings t.browser).pending = some c) ∧
        ∀ c, exchanges c (Watch.after s turns).scene.world.asked ≤ 1) := by
  refine ⟨Watch.agrees_iff_saved hreadable, fun hsaved => ?_⟩
  have hheld := Watch.Held.after hreadable fun past t h => .inl (hsaved past t h)
  refine ⟨fun past t hpast credentials code c hmem => ?_, fun c => ?_⟩
  · obtain ⟨hcallback, hcode, htaken⟩ := Scene.of_exchangeCode hmem
    have hpast' := hheld past ((List.prefix_append past [t]).trans hpast)
    exact ⟨hcallback, hcode, (Scene.takeChallenge_session (hpast' t.browser)).symm.trans htaken⟩
  · exact (Watch.Sound.after hheld hdistinct).once c

/-- The run of a login in which every session can be saved. -/
theorem challenges_used_once_of_short_name :
    let ada : User := ⟨⟨"u-1", by decide⟩, "Ada", "ada@example.com", none⟩
    let turns := [Turn.plain 0 ada "/auth/init", .plain 0 ada "/auth/callback?access_code=x",
      .plain 0 ada "/auth/callback?access_code=y"]
    ∀ c, exchanges c (Watch.after .plain turns).scene.world.asked ≤ 1 := by
  intro ada turns
  have hfits : (Standing.mk (some (.of ada)) none).Fits := by decide +kernel
  have hdistinct :
      Setting.plain.Distinct (Watch.after .plain turns).scene.world.challengesDrawn := by
    have hone : (Watch.after .plain turns).scene.world.challengesDrawn = 1 := by decide +kernel
    intro i j hij hj
    omega
  have hreadable : ∀ t ∈ turns, t.endpoint = some .loginCallback → t.accessCode.isOk := by
    decide +kernel
  refine ((challenges_used_once .plain turns hdistinct hreadable).2 ?_).2
  rintro past t hpast ⟨login, hlogin, hlong⟩
  have ht : t ∈ turns := hpast.subset (by simp)
  obtain ⟨-, raw, c, k, ch, -, -, huser, -⟩ := Scene.of_login hlogin
  have hplatform : t.platform = .ofUser ada := by
    simp only [turns, List.mem_cons, List.not_mem_nil, or_false] at ht
    rcases ht with rfl | rfl | rfl <;> rfl
  rw [hplatform] at huser
  have hada : ada = login.user := Except.ok.inj huser
  exact hlong (hada ▸ hfits)

/-! ## What happens when a session is too long -/

namespace Scene

variable {s : Setting} {p : Scene} {t t' : Turn} {st : Standing}

/-- A turn that completes a login exchanges a code for the challenge of its session. -/
theorem questions_of_login {login : Login.Completed} (h : p.login? s t = some login) :
    ∃ c k ch, (p.session t).takeChallenge.1 = some ch ∧
      p.questions s t = [.activeUser login.token, .exchangeCode c k ch] := by
  obtain ⟨hcallback, raw, c, k, ch, hcode, htaken, -, hquestions⟩ := of_login h
  obtain ⟨created, response, -, -, hhandled⟩ := handled_loginCallback s p t hcallback hcode
  exact ⟨c, k, ch, htaken, p.questions_eq s t (by rw [hhandled, ← hquestions])⟩

/-- When the session of the user who logs in is too long, the challenge can be exchanged again by
the same browser. -/
theorem exchanged_again (h : st.Held (p.cookies t.browser)) (hlong : p.Overflows s t)
    (hbrowser : t'.browser = t.browser) (hagain : (p.login? s t').isSome) :
    ∃ ch, st.pending = some ch ∧ 2 ≤ exchanges ch ((p.next s t).next s t').world.asked := by
  obtain ⟨login, hlogin, -⟩ := id hlong
  obtain ⟨login', hlogin'⟩ := Option.isSome_iff_exists.mp hagain
  obtain ⟨-, raw, -, -, -, hcode, -⟩ := of_login hlogin
  have hsame : (p.next s t).cookies t'.browser = p.cookies t'.browser := by
    rw [hbrowser]
    rcases held_next s h (fun _ => by rw [hcode]; rfl) with ⟨hfits, -⟩ | ⟨-, hsame, -⟩
    · exact absurd hlong hfits
    · exact hsame
  have hlogin'' : (p.next s t).login? s t' = some login' := by
    rw [← hlogin']
    simp only [login?, session, hsame]
  have hsession : (p.next s t).session t' = p.session t := by
    rw [session, session, hsame, hbrowser]
  obtain ⟨c, k, ch, htaken, hfirst⟩ := questions_of_login hlogin
  obtain ⟨c', k', ch', htaken', hsecond⟩ := questions_of_login hlogin''
  rw [hsession, htaken] at htaken'
  cases htaken'
  refine ⟨ch, (takeChallenge_session h).symm.trans htaken, ?_⟩
  have hone : ∀ token c k, exchanges ch [.activeUser token, .exchangeCode c k ch] = 1 := by
    simp [exchanges]
  rw [asked_next, asked_next, exchanges_append, exchanges_append, hfirst, hsecond, hone, hone]
  omega

end Scene

/-- After such a login the session of the browser is not what the automaton says, and a further
callback of the browser exchanges a code for the same challenge. -/
theorem Watch.Held.exchanged_twice {s : Setting} {w : Watch} {t t' : Turn} (h : w.Held)
    (hlong : w.scene.Overflows s t) (hbrowser : t'.browser = t.browser)
    (hagain : (w.scene.login? s t').isSome) :
    ¬ (w.next s t).Agrees ∧
      ∃ c, 2 ≤ exchanges c ((w.next s t).next s t').scene.world.asked := by
  constructor
  · obtain ⟨login, hlogin, -⟩ := id hlong
    obtain ⟨-, raw, -, -, -, hcode, -⟩ := Scene.of_login hlogin
    have hreadable : t.endpoint = some .loginCallback → t.accessCode.isOk := by
      intro
      rw [hcode]
      rfl
    rcases Held.next s h hreadable with ⟨hfits, -⟩ | ⟨-, hleft⟩
    · exact absurd hlong hfits
    · exact hleft
  · obtain ⟨c, -, htwice⟩ := Scene.exchanged_again (h t.browser) hlong hbrowser hagain
    refine ⟨c, ?_⟩
    rw [next_scene, next_scene]
    exact htwice

/-- A name of five thousand letters is too long for a session: the sessions leave the automaton, and
the challenge is exchanged twice. -/
theorem exchanged_twice_for_long_name :
    let long : User :=
      ⟨⟨"u-1", by decide⟩, String.ofList (List.replicate 5000 'n'), "ada@example.com", none⟩
    let w := Watch.start.next .plain (.plain 0 long "/auth/init")
    let first := Turn.plain 0 long "/auth/callback?access_code=x"
    let second := Turn.plain 0 long "/auth/callback?access_code=y"
    ¬ (w.next .plain first).Agrees ∧
      ∃ c, 2 ≤ exchanges c ((w.next .plain first).next .plain second).scene.world.asked := by
  intro long w first second
  have hstart : (Turn.plain 0 long "/auth/init").endpoint ≠ some .loginCallback := by
    decide +kernel
  have hheld : w.Held := Watch.Held.start.next_of_ne .plain hstart
  have hfirst : (w.scene.login? .plain first).isSome := by decide +kernel
  have hsecond : (w.scene.login? .plain second).isSome := by decide +kernel
  have hlong : w.scene.Overflows .plain first := by
    obtain ⟨login, hlogin⟩ := Option.isSome_iff_exists.mp hfirst
    obtain ⟨-, raw, c, k, ch, -, -, huser, -⟩ := Scene.of_login hlogin
    have huser : long = login.user := Except.ok.inj huser
    refine ⟨login, hlogin, fun hfits => ?_⟩
    have hname := hfits.length_name_le
    have hlength : (Identity.of long).name.toList.length = 5000 := by
      change (String.ofList (List.replicate 5000 'n')).toList.length = 5000
      rw [String.toList_ofList, List.length_replicate]
    rw [← huser, hlength] at hname
    exact absurd hname (by decide)
  exact hheld.exchanged_twice hlong rfl hsecond

end Rulebook
