import Rulebook.Proofs.Http.Header
import Rulebook.Proofs.Ruleset.Export
import Rulebook.Proofs.Ruleset.Link
import Rulebook.Proofs.Site.ErrorAnswers
import Rulebook.Proofs.Site.WellFormed

/-!
# What a link downloads

The link of a ruleset leads to the export of its rules, for everyone (`Scene.response_of_link`).
Along a run of requests every ruleset has a name that came through a form and an id from the supply
(`Tally.submitted_after`); that is all the link needs, but for one thing. The name goes into a
header, and a header admits no control character besides the tab, while forms do. So a link works
exactly if the name has none (`links_download_exactly`).
-/

namespace Rulebook

open Digest.Sha256 (TellsApart)
open Rulesets (listed messages)

/-- A ruleset whose name came through a form and whose id is one of a supply. -/
structure Ruleset.Submitted (supply : IdSupply) (r : Ruleset) : Prop where
  name : Text.IsName r.name
  supplied : ∃ n, r.id = supply.candidate n

/-- Every document of the rulesets is that of a submitted ruleset. -/
def Store.Submitted (supply : IdSupply) (s : Store) : Prop :=
  (s.shelf .rulesets).Filled Ruleset.toJson (·.id) (Ruleset.Submitted supply)

/-! ## Rulesets along a run -/

section Submitted

variable {s : Setting} {p : Scene} {t : Turn}

theorem Scene.submitted_next (h : p.world.store.Submitted s.supply) :
    (p.next s t).world.store.Submitted s.supply := by
  unfold Store.Submitted
  rcases p.kept_cases s t with ⟨-, hshelf⟩ | ⟨step, hproper, -, hshelf⟩
  · rw [hshelf _ (by simp)]
    exact h
  · -- only a call on the rulesets themselves matters, and what it writes came through a form
    rw [hshelf _ (by simp)]
    cases step with
    | edit time rulesetId e =>
      rw [Rules.Step.frame _ _ (.edit time rulesetId e) (by simp [Rules.Step.collection])]
      exact h
    | ruleset time call =>
      exact hproper.2.filled_of (fun draft hdraft n => ⟨hdraft.name, n, rfl⟩)
        (fun draft hdraft r hr => ⟨hdraft.name, hr.supplied⟩) h

/-- After any run of requests there are submitted rulesets only. -/
theorem Tally.submitted_after (s : Setting) (past : List Sent) :
    (after s past).scene.world.store.Submitted s.supply := by
  induction past using List.reverseRecOn with
  | nil => exact .empty
  | append_singleton past x ih =>
    have hnext : (after s (past ++ [x])).scene =
        ((after s past).scene.meeting x).next s x.turn := by rw [after_concat, next]
    rw [hnext]
    exact Scene.submitted_next (s := s) (p := (after s past).scene.meeting x) (t := x.turn) ih

end Submitted

theorem Rulesets.mem_listed_of_mem {store : Store} {r : Ruleset}
    (h : (⟨r.id, r.toJson⟩ : Document) ∈ (store.shelf .rulesets).documents) : r ∈ listed store :=
  mem_listed.mpr ⟨_, h, writes.ofDocument?_self rfl⟩

/-- Rulesets of one public name are one, if ids have no colon and the digest tells them apart. -/
theorem Rulesets.find?_of_submitted {supply : IdSupply} {store : Store} {r : Ruleset}
    (hcolon : ∀ n, ':' ∉ (supply.candidate n).toList)
    (hdigests : TellsApart (messages (listed store)))
    (h : store.Submitted supply)
    (hr : (⟨r.id, r.toJson⟩ : Document) ∈ (store.shelf .rulesets).documents) :
    (listed store).find? (fun other => Export.hashOf other = Export.hashOf r) = some r := by
  have hseparate : Separate store := by
    refine ⟨fun d hd => ?_, hdigests⟩
    obtain ⟨other, rfl, hother⟩ := h d hd
    obtain ⟨n, hn⟩ := hother.supplied
    change ':' ∉ other.id.toList
    rw [hn]
    exact hcolon n
  exact (hseparate.find?_eq_some_iff _).mpr ⟨mem_listed_of_mem hr, rfl⟩

/-! ## Ids without colons -/

namespace IdSupply

theorem isAlphanum_idLetter (n : Nat) : (idLetter n).isAlphanum = true := by
  have hletters : ∀ k < 62, (idLetter k).isAlphanum = true := by decide
  have hletter := hletters (n % 62) (Nat.mod_lt n (by decide))
  rwa [idLetter, Nat.mod_mod, ← idLetter] at hletter

/-- Ids drawn at random have no colon. -/
theorem colon_notMem_idOfDraws (draw : Nat → Nat) : ':' ∉ (idOfDraws draw).toList := by
  intro h
  rw [idOfDraws, String.toList_ofList] at h
  obtain ⟨i, -, hi⟩ := List.mem_map.mp h
  have hletter := isAlphanum_idLetter (draw i)
  rw [hi] at hletter
  exact absurd hletter (by decide)

/-- Numbered ids have no colon if their label has none. -/
theorem colon_notMem_numberedText {label : String} (hlabel : ':' ∉ label.toList)
    (width n : Nat) : ':' ∉ (numberedText label width n).toList := by
  intro h
  simp only [numberedText, String.toList_append, String.toList_ofList, List.mem_append] at h
  rcases h with h | h | h
  · exact hlabel h
  · exact absurd (List.eq_of_mem_replicate h) (by decide)
  · exact absurd (Nat.isDigit_of_mem_toDigits (by decide) (by decide) h) (by decide)

end IdSupply

theorem Setting.colon_notMem_plain (n : Nat) :
    ':' ∉ (Setting.plain.supply.candidate n).toList :=
  IdSupply.colon_notMem_numberedText (by decide) 3 (n + 1)

/-! ## The response -/

/-- The response to a link: the export as a file to save. -/
theorem Site.export_runIn (around : Surroundings) {w : World} (v : Visit) {hash : String}
    {r : Ruleset}
    (hfind : (listed w.store).find? (fun other => Export.hashOf other = hash) = some r) :
    ∃ listing text, (Rules.list r.id).runIn around.calm w = (.ok listing, w) ∧
      Export.tsv listing.items = .ok text ∧
      ((Site.export hash v).runIn around.calm w).1 =
        .ok (.attachment exportType (Export.fileName r.name) text) := by
  obtain ⟨skipped, hlist⟩ := Rules.list_runIn_listed around w r.id
  obtain ⟨text, htext, -⟩ := Export.exists_tsv (Rule.sort (Rules.listed w.store r.id))
  refine ⟨_, text, hlist, htext, ?_⟩
  simp only [Site.export, Attempt.orRefuse, Attempt.runIn_bind, Attempt.runIn_orFail,
    Rulesets.findByHash_runIn, hfind, hlist, htext, Attempt.mapError_ok, Attempt.runIn_pure]

/-- A file to save is sent under its name if the header with the name can be written. -/
theorem Http.Response.attachment_of_isHeaderValue {type fileName body : String}
    (h : isHeaderValue ("attachment; filename=" ++ quotedParameter fileName) = true) :
    attachment type fileName body = ⟨200, [("content-disposition",
      "attachment; filename=" ++ quotedParameter fileName), ("content-type", type)], body⟩ := by
  rw [attachment, withHeader, if_pos h]
  rfl

theorem Http.Response.attachment_of_not_isHeaderValue {type fileName body : String}
    (h : isHeaderValue ("attachment; filename=" ++ quotedParameter fileName) = false) :
    attachment type fileName body = unwritable := by
  rw [attachment, withHeader, if_neg (by simp [h])]

/-- The answer to a link: a file with the name of the ruleset, or an error if the name cannot stand
in a header. -/
def Export.answer (trace : TraceId) (name text : String) : Http.Response :=
  if Http.isHeaderValue name then
    ⟨200, [("trace-id", trace.render), ("content-disposition",
      "attachment; filename=" ++ Http.Response.quotedParameter (fileName name)),
      ("content-type", "text/tab-separated-values; charset=utf-8")], text⟩
  else
    ⟨500, [("trace-id", trace.render), ("content-type", "text/plain; charset=utf-8")],
      "failed to parse header value"⟩

theorem Export.answer_eq (trace : TraceId) {name : String} (text : String)
    (hname : Text.IsName name) :
    (Http.Response.attachment Site.exportType (fileName name) text).setHeader traceHeader
      trace.render = answer trace name text := by
  have hvalue := isHeaderValue_attachment hname.ne_empty hname.trimmed
  unfold answer
  split
  · next h =>
    rw [Http.Response.attachment_of_isHeaderValue (hvalue.trans h)]
    rfl
  · next h =>
    rw [Http.Response.attachment_of_not_isHeaderValue (hvalue.trans (Bool.eq_false_iff.mpr h))]
    rfl

/-- A request for the link of a ruleset that is found is answered with the export of its rules. -/
theorem Scene.response_of_link (s : Setting) (p : Scene) (t : Turn) {r : Ruleset}
    (hname : Text.IsName r.name) (hmethod : t.request.method = "GET")
    (htarget : t.request.target = Export.url r) (hcalm : t.outages = [])
    (hfind : (listed p.world.store).find? (fun other => Export.hashOf other = Export.hashOf r) =
      some r) :
    ∃ listing text, (Rules.list r.id).runIn (t.around s) p.world = (.ok listing, p.world) ∧
      Export.tsv listing.items = .ok text ∧
      (p.outcome s t).1.response = Export.answer t.traceId r.name text := by
  have haround : (t.around s).calm = t.around s := by rw [Surroundings.calm, Turn.around, hcalm]
  have hendpoint : t.endpoint = some (.export (Export.hashOf r)) := by
    rw [Turn.endpoint, hmethod, htarget, Export.find?_url]
  obtain ⟨listing, text, hlist, htext, hexport⟩ := Site.export_runIn (t.around s)
    ⟨t.request, p.session t, t.now⟩ hfind
  rw [haround] at hlist hexport
  have hhandle : (t.application s).handle t.traceId ⟨t.request, p.session t, t.now⟩
      (.export (Export.hashOf r)) = Application.settle t.traceId ⟨t.request, p.session t, t.now⟩
        (Site.export (Export.hashOf r) ⟨t.request, p.session t, t.now⟩) := rfl
  refine ⟨listing, text, hlist, htext, ?_⟩
  rw [outcome_eq, handled_of_endpoint s p t hendpoint, hhandle, Application.settle_runIn_answer,
    hexport, session, Application.finish_ofCookie, Handling.answer, Export.answer_eq _ _ hname]

/-! ## Links -/

/-- After a run of requests, the link of a ruleset that is kept is answered with the export, or with
an error if the name has a control character. -/
theorem Tally.response_of_link {s : Setting} {past : List Sent} {r : Ruleset}
    (hcolon : ∀ n, ':' ∉ (s.supply.candidate n).toList)
    (hdigests : TellsApart (messages (listed (after s past).scene.world.store)))
    (hkept : (⟨r.id, r.toJson⟩ : Document) ∈
      ((after s past).scene.world.store.shelf .rulesets).documents)
    (hname : Text.IsName r.name) {x : Sent} (hmethod : x.turn.request.method = "GET")
    (htarget : x.turn.request.target = Export.url r) (hcalm : x.turn.outages = []) :
    let p := (after s past).scene.meeting x
    ∃ listing text, (Rules.list r.id).runIn (x.turn.around s) p.world = (.ok listing, p.world) ∧
      Export.tsv listing.items = .ok text ∧
      (p.outcome s x.turn).1.response = Export.answer x.turn.traceId r.name text := by
  intro p
  have hfind := Rulesets.find?_of_submitted hcolon hdigests (submitted_after s past) hkept
  exact Scene.response_of_link s p x.turn hname hmethod htarget hcalm hfind

/-- **A link downloads its rules, unless the name has a control character.** After any run of
requests, if ids have no colon and the digest tells the stored rulesets apart, every document of
the rulesets is that of a ruleset, and whoever asks for its link, with a session or without, gets
the export of the rules a listing shows, as a file that is named after the ruleset. If the name has
a control character other than the tab, the answer is an error instead. -/
theorem links_download_exactly (s : Setting) (past : List Sent)
    (hcolon : ∀ n, ':' ∉ (s.supply.candidate n).toList)
    (hdigests : TellsApart (messages (listed (Tally.after s past).scene.world.store))) :
    ∀ d ∈ ((Tally.after s past).scene.world.store.shelf .rulesets).documents,
      ∃ r, d = ⟨r.id, r.toJson⟩ ∧ ∀ x : Sent, x.turn.request.method = "GET" →
        x.turn.request.target = Export.url r → x.turn.outages = [] →
        let p := (Tally.after s past).scene.meeting x
        ∃ listing text, (Rules.list r.id).runIn (x.turn.around s) p.world = (.ok listing, p.world) ∧
          Export.tsv listing.items = .ok text ∧
          (p.outcome s x.turn).1.response = Export.answer x.turn.traceId r.name text := by
  intro d hd
  obtain ⟨r, rfl, hr⟩ := Tally.submitted_after s past d hd
  exact ⟨r, rfl, fun x hmethod htarget hcalm =>
    Tally.response_of_link hcolon hdigests hd hr.name hmethod htarget hcalm⟩

/-- A signed-in user submits a form. -/
def Sent.submit (user : User) (target form : String) : Sent :=
  ⟨{ Turn.plain 0 user target with
    request := ⟨"POST", target, [("content-type", Http.Form.mediaType)], Text.Utf8.encode form⟩ },
    some (Standing.mk (some (.of user)) none).entries⟩

theorem Turn.target_plain (browser : Nat) (user : User) (target : String) :
    (Turn.plain browser user target).request.target = target :=
  rfl

/-- Rulesets of two projects are submitted, and a rule of the first with two conditions. The link of
that ruleset answers a browser without a session with the two lines of the rule. -/
theorem link_downloads_submitted :
    let ada : User := ⟨⟨"u-1", by decide⟩, "Ada", "ada@example.com", none⟩
    let past := [Sent.submit ada "/rulesets" "name=+Walls+&projectId=p-1",
      Sent.submit ada "/rulesets" "name=Doors&projectId=p-2",
      Sent.submit ada "/rulesets/doc001/rules" ("name=Thick&message=Too+thin" ++
        "&conditions[0][propertyName]=Width&conditions[0][predicate]=greater" ++
        "&conditions[0][value]=0.2" ++
        "&conditions[1][propertyName]=Height&conditions[1][predicate]=exists")]
    let noon : Time.Timestamp := ⟨⟨2024, 6, 1, by decide⟩, 12, 30, 0, 0, by decide⟩
    let walls : Ruleset := ⟨"doc001", "Walls", "", "p-1", [], noon, noon⟩
    let doors : Ruleset := ⟨"doc002", "Doors", "", "p-2", [], noon, noon⟩
    let x : Sent := ⟨Turn.plain 1 ada (Export.url walls), none⟩
    let response := (((Tally.after .plain past).scene.meeting x).outcome .plain x.turn).1.response
    let rows :=
      "Rule Number\tLogic\tProperty Name\tPredicate\tValue\tReport Severity\tMessage\n" ++
      "1\tWHERE\tWidth\tgreater\t0.2\t\t\n" ++
      "\tCHECK\tHeight\texists\t\tError\tToo thin\n"
    (∀ n, ':' ∉ (Setting.plain.supply.candidate n).toList) ∧
      listed (Tally.after .plain past).scene.world.store = [walls, doors] ∧
      TellsApart (messages (listed (Tally.after .plain past).scene.world.store)) ∧
      response.status = 200 ∧ response.body = rows := by
  intro ada past noon walls doors x response rows
  have hlisted : listed (Tally.after .plain past).scene.world.store = [walls, doors] := by
    decide +kernel
  have hdigests : TellsApart (messages (listed (Tally.after .plain past).scene.world.store)) := by
    rw [hlisted]
    decide +kernel
  have hrows : ((Rules.list walls.id).runIn (x.turn.around .plain)
      (Tally.after .plain past).scene.world).1.toOption.map
        (fun listing => (Export.tsv listing.items).toOption) = some (some rows) := by
    decide +kernel
  obtain ⟨d, hd, hread⟩ := Rulesets.mem_listed.mp (hlisted ▸ List.mem_cons_self : walls ∈ listed _)
  obtain ⟨r, rfl, hlink⟩ := links_download_exactly .plain past Setting.colon_notMem_plain
    hdigests d hd
  obtain rfl : r = walls :=
    Option.some.inj ((Rulesets.writes.ofDocument?_self rfl).symm.trans hread)
  obtain ⟨listing, text, hlist, htext, hresponse⟩ := hlink x rfl (Turn.target_plain ..) rfl
  rw [Scene.world_meeting] at hlist
  rw [hlist] at hrows
  simp only [Except.toOption, Option.map_some, htext, Option.some.injEq] at hrows
  have hheader : Http.isHeaderValue walls.name = true := by decide
  rw [Export.answer, if_pos hheader] at hresponse
  exact ⟨Setting.colon_notMem_plain, hlisted, hdigests, congrArg (·.status) hresponse,
    (congrArg (·.body) hresponse).trans hrows⟩

/-- A ruleset is submitted with a control character in its name, and its link answers with 500. -/
theorem link_fails_for_control_character :
    let ada : User := ⟨⟨"u-1", by decide⟩, "Ada", "ada@example.com", none⟩
    let past := [Sent.submit ada "/rulesets" "name=fire%01safety&projectId=p"]
    TellsApart (messages (listed (Tally.after .plain past).scene.world.store)) ∧
      ∃ r ∈ listed (Tally.after .plain past).scene.world.store, r.name = "fire\x01safety" ∧
        let x : Sent := ⟨Turn.plain 1 ada (Export.url r), none⟩
        (((Tally.after .plain past).scene.meeting x).outcome .plain x.turn).1.response.status =
          500 := by
  intro ada past
  have hnames : (listed (Tally.after .plain past).scene.world.store).map (·.name) =
      ["fire\x01safety"] := by decide +kernel
  obtain ⟨fire, hlisted, hname⟩ := List.map_eq_singleton_iff.mp hnames
  obtain ⟨d, hd, -⟩ := Rulesets.mem_listed.mp (hlisted ▸ List.mem_singleton_self fire)
  have hdigests : TellsApart (messages (listed (Tally.after .plain past).scene.world.store)) :=
    hlisted ▸ .singleton _
  obtain ⟨r, rfl, hsubmitted⟩ := Tally.submitted_after .plain past d hd
  have hmem := Rulesets.mem_listed_of_mem hd
  obtain rfl : r = fire := List.mem_singleton.mp (hlisted ▸ hmem)
  obtain ⟨listing, text, -, -, hresponse⟩ := Tally.response_of_link
    (x := ⟨Turn.plain 1 ada (Export.url r), none⟩) Setting.colon_notMem_plain hdigests hd
    hsubmitted.name rfl (Turn.target_plain ..) rfl
  rw [hname, Export.answer, if_neg (by decide)] at hresponse
  exact ⟨hdigests, r, hmem, hname, congrArg (·.status) hresponse⟩

end Rulebook
