import Rulebook.Proofs.Http.Target
import Rulebook.Proofs.Page.Hole
import Rulebook.Proofs.Program.Run
import Rulebook.Proofs.Ruleset.RoundTrip
import Rulebook.Site.Endpoint

/-!
# Links to exports

The public name of an export is a digest of a project id, a colon and a ruleset id. A project id may
hold colons and a ruleset id holds none, so the last colon says where one ends and the other begins
(`Export.preimage_inj`), and the letters lose nothing of the digest. What is left is the digest
itself: as long as it tells apart what it is taken of, a name belongs to one ruleset only, and a
link opens the ruleset it was made for as long as that ruleset is there with the same project
(`Rulesets.links_open_own`).
-/

namespace Rulebook

namespace Digest.Sha256

/-- No two of these messages have one digest. -/
def TellsApart (messages : List (List UInt8)) : Prop :=
  ∀ x ∈ messages, ∀ y ∈ messages, digest x = digest y → x = y

instance (messages : List (List UInt8)) : Decidable (TellsApart messages) :=
  inferInstanceAs (Decidable (∀ x ∈ messages, ∀ y ∈ messages, digest x = digest y → x = y))

/-- Fewer messages are told apart as well. -/
theorem TellsApart.mono {few many : List (List UInt8)} (h : TellsApart many)
    (hsub : ∀ x ∈ few, x ∈ many) : TellsApart few :=
  fun x hx y hy => h x (hsub x hx) y (hsub y hy)

/-- One message is told apart from every other one. -/
theorem TellsApart.singleton (message : List UInt8) : TellsApart [message] := by
  intro x hx y hy _
  rw [List.mem_singleton.mp hx, List.mem_singleton.mp hy]

end Digest.Sha256

namespace Export

open Digest.Sha256 (TellsApart)

/-- Two lists joined by a separator that the second one does not hold can be taken apart. -/
theorem append_cons_inj {c : Char} {xs ys us vs : List Char} (hys : c ∉ ys) (hvs : c ∉ vs)
    (h : xs ++ c :: ys = us ++ c :: vs) : xs = us ∧ ys = vs := by
  have hpieces : xs.splitOn c ++ [ys] = us.splitOn c ++ [vs] := by
    rw [← List.splitOn_eq_singleton hys, ← List.splitOn_eq_singleton hvs,
      ← List.splitOn_append_cons_self, ← List.splitOn_append_cons_self, h]
  have hlast : ys = vs := by simpa using (List.append_inj' hpieces rfl).2
  subst hlast
  exact ⟨List.append_cancel_right h, rfl⟩

variable {p q i j : String}

/-- Where ruleset ids hold no colon, the ids can be read off what the digest is taken of. -/
theorem preimage_inj (hi : ':' ∉ i.toList) (hj : ':' ∉ j.toList)
    (h : preimage p i = preimage q j) : p = q ∧ i = j := by
  have htext := congrArg String.toList (Text.Utf8.encode_injective h)
  simp only [String.toList_append, String.reduceToList, List.append_assoc, List.singleton_append]
    at htext
  obtain ⟨hp, hi⟩ := append_cons_inj hi hj htext
  exact ⟨String.toList_injective hp, String.toList_injective hi⟩

/-- A public name says the ids it was made of, if the digest tells them apart. -/
theorem hash_inj {messages : List (List UInt8)} (hdigest : TellsApart messages)
    (hp : preimage p i ∈ messages) (hq : preimage q j ∈ messages) (hi : ':' ∉ i.toList)
    (hj : ':' ∉ j.toList) (h : hash p i = hash q j) : p = q ∧ i = j :=
  preimage_inj hi hj (hdigest _ hp _ hq (Digest.base64Url_injective h))

/-! ## The spelling of a link -/

/-- A public name has 43 letters. -/
theorem length_hash (p i : String) : (hash p i).length = 43 := by
  rw [hash, Digest.base64Url, ← String.length_toList, String.toList_ofList, Digest.length_letters,
    Digest.Sha256.length_digest]

theorem isLetter_of_mem_hash {c : Char} (h : c ∈ (hash p i).toList) :
    Digest.isLetter c = true := by
  rw [hash, Digest.base64Url, String.toList_ofList] at h
  exact Digest.isLetter_of_mem_letters h

/-- A sign that is no letter is not in a public name. -/
theorem not_mem_hash {c : Char} (h : Digest.isLetter c = false) (p i : String) :
    c ∉ (hash p i).toList := by
  intro hc
  rw [isLetter_of_mem_hash hc] at h
  cases h

/-- The address of an export leads to that export, its name unchanged. -/
theorem find?_url (r : Ruleset) :
    Endpoint.find? "GET" (Http.splitTarget (url r)).1 = some (.export (hashOf r)) := by
  have hsign : ∀ c, Digest.isLetter c = false → c ∉ (hashOf r).toList :=
    fun c hc => not_mem_hash hc r.projectId r.id
  have hchars : (url r).toList =
      '/' :: (['r'] ++ '/' :: ((hashOf r).toList ++ '/' :: ['t', 's', 'v'])) := by
    simp [url]
  have hout : ∀ c, isAddress c = false → c ∉ (url r).toList := fun c hc hmem => by
    rw [isAddress_of_mem_url hmem] at hc
    cases hc
  have htarget : Http.splitTarget (url r) = ((url r).toList, []) := by
    rw [hchars] at hout
    exact Http.splitTarget_of_path hchars (fun h => hout '?' rfl (List.mem_cons_of_mem _ h))
      fun h => hout '#' rfl (List.mem_cons_of_mem _ h)
  have hsegments : Http.segments (url r).toList = ["", "r", hashOf r, "tsv"] := by
    rw [Http.segments_of_not_mem (hout '%' rfl), hchars,
      ← List.nil_append ('/' :: _),
      List.splitOn_append_cons_self_of_not_mem (List.not_mem_nil),
      List.splitOn_append_cons_self_of_not_mem (by decide),
      List.splitOn_append_cons_self_of_not_mem (hsign '/' rfl),
      List.splitOn_eq_singleton (by decide)]
    simp
  have hnonempty : hashOf r ≠ "" := by
    intro h
    have hlength := length_hash r.projectId r.id
    rw [← hashOf, h] at hlength
    cases hlength
  rw [htarget]
  simp only [Endpoint.find?, hsegments, Endpoint.ofGet, Endpoint.with1, if_neg hnonempty,
    Http.parameter_of_not_mem (hsign '%' rfl), ↓reduceIte]

end Export

namespace Rulesets

open Digest.Sha256 (TellsApart)

/-- The rulesets a listing shows. -/
def listed (s : Store) : List Ruleset :=
  (kind.listing (s.list .rulesets none)).items

/-- What the public names of rulesets are digests of. -/
def messages (rulesets : List Ruleset) : List (List UInt8) :=
  rulesets.map fun r => Export.preimage r.projectId r.id

variable {s : Store} {r other : Ruleset} {around : Surroundings} {w : World}

theorem mem_listed :
    r ∈ listed s ↔ ∃ d ∈ (s.shelf .rulesets).documents, kind.ofDocument? d = some r :=
  DocumentKind.mem_items

/-- A listed ruleset is known by its id. -/
theorem eq_of_mem_listed (hr : r ∈ listed s) (hother : other ∈ listed s) (h : r.id = other.id) :
    r = other := by
  obtain ⟨d, hd, hr⟩ := mem_listed.mp hr
  obtain ⟨e, he, hother⟩ := mem_listed.mp hother
  exact DocumentKind.eq_of_ofDocument? writes.idOf_of_ofDocument? hd he hr hother h

/-- The document of a listed ruleset is found under its id. -/
theorem get_of_mem_listed (h : r ∈ listed s) :
    ∃ fields, (s.shelf .rulesets).get? r.id = some fields ∧
      kind.ofDocument? ⟨r.id, fields⟩ = some r := by
  obtain ⟨d, hd, hread⟩ := mem_listed.mp h
  have hid := writes.idOf_of_ofDocument? hread
  exact ⟨d.fields, Shelf.get?_eq_some_iff.mpr (by rwa [hid]), by rwa [hid]⟩

/-- After a ruleset is written under its id, it is listed in place of the one that was. -/
theorem mem_listed_set (new : Ruleset) :
    r ∈ listed (s.set .rulesets new.id new.toJson) ↔
      r = new ∨ r ∈ listed s ∧ r.id ≠ new.id := by
  simp only [mem_listed, Store.set, Store.shelf_put_self, Shelf.mem_insert]
  constructor
  · rintro ⟨d, rfl | ⟨hd, hne⟩, hread⟩
    · rw [writes.ofDocument?_write] at hread
      exact .inl (Option.some.inj hread).symm
    · exact .inr ⟨⟨d, hd, hread⟩, writes.idOf_of_ofDocument? hread ▸ hne⟩
  · rintro (rfl | ⟨⟨d, hd, hread⟩, hne⟩)
    · exact ⟨_, .inl rfl, writes.ofDocument?_write _ _⟩
    · exact ⟨d, .inr ⟨hd, writes.idOf_of_ofDocument? hread ▸ hne⟩, hread⟩

/-- After the document of an id is removed, all others are listed. -/
theorem mem_listed_erase (id : String) :
    r ∈ listed (s.put .rulesets ((s.shelf .rulesets).erase id)) ↔ r ∈ listed s ∧ r.id ≠ id := by
  simp only [mem_listed, Store.shelf_put_self, Shelf.mem_erase]
  constructor
  · rintro ⟨d, ⟨hd, hne⟩, hread⟩
    exact ⟨⟨d, hd, hread⟩, writes.idOf_of_ofDocument? hread ▸ hne⟩
  · rintro ⟨⟨d, hd, hread⟩, hne⟩
    exact ⟨d, ⟨hd, writes.idOf_of_ofDocument? hread ▸ hne⟩, hread⟩

theorem preimage_mem_messages {rulesets : List Ruleset} (h : r ∈ rulesets) :
    Export.preimage r.projectId r.id ∈ messages rulesets :=
  List.mem_map_of_mem (f := fun r : Ruleset => Export.preimage r.projectId r.id) h

/-! ## Finding -/

/-- The search passes over the listed rulesets once and changes nothing. -/
theorem findByHash_runIn (hash : String) :
    (findByHash hash).runIn around.calm w =
      (.ok ((listed w.store).find? fun r => Export.hashOf r = hash), w) :=
  rfl

/-- Where at most one item passes a test, the first one that passes is the one. -/
theorem find?_eq_some_iff_of_unique {α : Type} {p : α → Bool} {xs : List α} {x : α}
    (h : ∀ a ∈ xs, ∀ b ∈ xs, p a = true → p b = true → a = b) :
    xs.find? p = some x ↔ x ∈ xs ∧ p x = true := by
  constructor
  · exact fun hfind => ⟨List.mem_of_find?_eq_some hfind, List.find?_some hfind⟩
  · rintro ⟨hx, hp⟩
    obtain ⟨y, hy⟩ := Option.isSome_iff_exists.mp (List.find?_isSome.mpr ⟨x, hx, hp⟩)
    rw [hy, h y (List.mem_of_find?_eq_some hy) x hx (List.find?_some hy) hp]

/-- A store whose ruleset ids hold no colon, and whose listed rulesets have different digests. -/
structure Separate (s : Store) : Prop where
  ids : ∀ d ∈ (s.shelf .rulesets).documents, ':' ∉ d.id.toList
  digests : TellsApart (messages (listed s))

namespace Separate

theorem not_mem_id (h : Separate s) (hr : r ∈ listed s) : ':' ∉ r.id.toList := by
  obtain ⟨d, hd, hread⟩ := mem_listed.mp hr
  rw [writes.idOf_of_ofDocument? hread]
  exact h.ids d hd

/-- Two listed rulesets of one public name are one. -/
theorem eq_of_hashOf_eq (h : Separate s) (hr : r ∈ listed s) (hother : other ∈ listed s)
    (heq : Export.hashOf r = Export.hashOf other) : r = other :=
  eq_of_mem_listed hr hother
    (Export.hash_inj h.digests (preimage_mem_messages hr) (preimage_mem_messages hother)
      (h.not_mem_id hr) (h.not_mem_id hother) heq).2

/-- What is found by a text is the listed ruleset whose public name it is. -/
theorem find?_eq_some_iff (h : Separate s) (hash : String) :
    (listed s).find? (fun r => Export.hashOf r = hash) = some r ↔
      r ∈ listed s ∧ Export.hashOf r = hash := by
  rw [find?_eq_some_iff_of_unique, decide_eq_true_eq]
  intro a ha b hb hpa hpb
  rw [decide_eq_true_eq] at hpa hpb
  exact h.eq_of_hashOf_eq ha hb (hpa.trans hpb.symm)

/-- What is found by the public name of two ids is the listed ruleset of these ids. -/
theorem find?_hash_eq_some_iff (h : Separate s) {p i : String} (hi : ':' ∉ i.toList)
    (hdigest : TellsApart (Export.preimage p i :: messages (listed s))) :
    (listed s).find? (fun r => Export.hashOf r = Export.hash p i) = some r ↔
      r ∈ listed s ∧ r.id = i ∧ r.projectId = p := by
  rw [h.find?_eq_some_iff]
  refine and_congr_right fun hr => ⟨fun heq => ?_, fun ⟨hid, hproject⟩ => ?_⟩
  · exact (Export.hash_inj hdigest (List.mem_cons_of_mem _ (preimage_mem_messages hr))
      List.mem_cons_self (h.not_mem_id hr) hi heq).symm
  · rw [Export.hashOf, hid, hproject]

/-- Whatever was listed before a write or is written, the digests are of no other messages. -/
theorem mem_messages_set {new : Ruleset} {x : List UInt8}
    (hx : x ∈ messages (listed (s.set .rulesets new.id new.toJson))) :
    x ∈ Export.preimage new.projectId new.id :: messages (listed s) := by
  obtain ⟨r, hr, rfl⟩ := List.mem_map.mp hx
  rcases (mem_listed_set new).mp hr with rfl | ⟨hr, -⟩
  · exact List.mem_cons_self
  · exact List.mem_cons_of_mem _ (preimage_mem_messages hr)

/-- A listed ruleset written anew leaves the store as it has to be. -/
theorem set {new : Ruleset} (h : Separate s) (hid : ':' ∉ new.id.toList)
    (hdigest : TellsApart (Export.preimage new.projectId new.id :: messages (listed s))) :
    Separate (s.set .rulesets new.id new.toJson) where
  ids d hd := by
    rw [Store.set, Store.shelf_put_self, Shelf.mem_insert] at hd
    rcases hd with rfl | ⟨hd, -⟩
    · exact hid
    · exact h.ids d hd
  digests := hdigest.mono fun _ => mem_messages_set

/-- After a listed ruleset is written anew, its old public name finds it exactly if it is still of
the same project. -/
theorem find?_hashOf_set (h : Separate s) (new : Ruleset) (hr : r ∈ listed s) (hid : new.id = r.id)
    (hdigest : TellsApart (Export.preimage new.projectId new.id :: messages (listed s))) :
    (listed (s.set .rulesets new.id new.toJson)).find?
        (fun x => Export.hashOf x = Export.hashOf r) =
      if new.projectId = r.projectId then some new else none := by
  have hcolon := h.not_mem_id hr
  have hseparate := h.set (hid ▸ hcolon) hdigest
  have hmessages : TellsApart (Export.preimage r.projectId r.id ::
      messages (listed (s.set .rulesets new.id new.toJson))) := by
    refine hdigest.mono fun x hx => ?_
    rcases List.mem_cons.mp hx with rfl | hx
    · exact List.mem_cons_of_mem _ (preimage_mem_messages hr)
    · exact mem_messages_set hx
  refine Option.ext fun found => (hseparate.find?_hash_eq_some_iff hcolon hmessages).trans ?_
  rw [mem_listed_set, Option.ite_none_right_eq_some, Option.some.injEq]
  constructor
  · rintro ⟨rfl | ⟨-, hne⟩, hsame, hproject⟩
    · exact ⟨hproject, rfl⟩
    · exact absurd (hsame.trans hid.symm) hne
  · rintro ⟨hproject, rfl⟩
    exact ⟨.inl rfl, hid, hproject⟩

/-- A ruleset removed leaves the store as it has to be. -/
theorem erase (h : Separate s) (id : String) :
    Separate (s.put .rulesets ((s.shelf .rulesets).erase id)) where
  ids d hd := by
    rw [Store.shelf_put_self, Shelf.mem_erase] at hd
    exact h.ids d hd.1
  digests := h.digests.mono fun x hx => by
    obtain ⟨r, hr, rfl⟩ := List.mem_map.mp hx
    exact preimage_mem_messages ((mem_listed_erase id).mp hr).1

end Separate

/-! ## Changes -/

/-- A listed ruleset can be updated, and its document is written anew. -/
theorem update_runIn {now : Time.Timestamp} {draft : RulesetDraft} (hr : r ∈ listed w.store) :
    (update now r.id draft).runIn around.calm w =
      (.ok (draft.applyTo now r),
        { w with store := w.store.set .rulesets r.id (draft.applyTo now r).toJson }) := by
  obtain ⟨fields, hget, hread⟩ := get_of_mem_listed hr
  have hfetch : (kind.fetch .rulesets malformed r.id).runIn around.calm w = (.ok r, w) :=
    DocumentKind.fetch_runIn_eq_ok_iff.mpr ⟨rfl, fields, hget, hread⟩
  rw [update_eq]
  exact (DocumentKind.rewrite_runIn_eq_ok_iff _).mpr ⟨r, hfetch, rfl, rfl⟩

/-- After an update the old link finds the ruleset exactly if it is still of the same project. -/
theorem findByHash_after_update (h : Separate w.store) {now : Time.Timestamp}
    {draft : RulesetDraft} (hr : r ∈ listed w.store)
    (hdigest : TellsApart (Export.preimage draft.projectId r.id :: messages (listed w.store))) :
    ((do let _ ← update now r.id draft; findByHash (Export.hashOf r)).runIn around.calm w).1 =
      .ok (if draft.projectId = r.projectId then some (draft.applyTo now r) else none) := by
  rw [Attempt.runIn_bind, update_runIn hr]
  simp only [findByHash_runIn]
  exact congrArg Except.ok (h.find?_hashOf_set (draft.applyTo now r) hr rfl hdigest)

/-- After a ruleset is deleted its link finds nothing. -/
theorem findByHash_after_delete (h : Separate w.store) (hr : r ∈ listed w.store) :
    ((do delete r.id; findByHash (Export.hashOf r)).runIn around.calm w).1 = .ok none := by
  obtain ⟨fields, hget, -⟩ := get_of_mem_listed hr
  rw [Attempt.runIn_bind, delete, Attempt.runIn_calm_delete_of_some around w hget]
  simp only [findByHash_runIn]
  refine congrArg Except.ok (Option.eq_none_iff_forall_ne_some.mpr fun found hfound => ?_)
  obtain ⟨hmem, hhash⟩ := ((h.erase r.id).find?_eq_some_iff _).mp hfound
  obtain ⟨hlisted, hne⟩ := (mem_listed_erase r.id).mp hmem
  exact hne (congrArg RulesetOf.id (h.eq_of_hashOf_eq hlisted hr hhash))

/-! ## Links -/

/-- **A link opens its own ruleset and no other.** In every store whose ruleset ids hold no colon,
and as long as the digest tells apart what it is taken of:

* any text finds the one listed ruleset whose public name it is, and nothing if there is none;
* the public name of a project id and a ruleset id finds the listed ruleset of that id if it is of
  that project, and nothing otherwise;
* so after an update a link finds the ruleset with its new content exactly if the project is the
  same, and after a deletion it finds nothing;
* a public name is 43 letters, digits, hyphens and underscores, and the address made of it leads to
  the export of that name. -/
theorem links_open_own (around : Surroundings) (w : World)
    (hids : ∀ d ∈ (w.store.shelf .rulesets).documents, ':' ∉ d.id.toList)
    (hdigests : TellsApart (messages (listed w.store))) :
    (∀ hash, ∃ found, (findByHash hash).runIn around.calm w = (.ok found, w) ∧
      ∀ r, found = some r ↔ r ∈ listed w.store ∧ Export.hashOf r = hash) ∧
    (∀ p i, ':' ∉ i.toList → TellsApart (Export.preimage p i :: messages (listed w.store)) →
      ∃ found, (findByHash (Export.hash p i)).runIn around.calm w = (.ok found, w) ∧
        ∀ r, found = some r ↔ r ∈ listed w.store ∧ r.id = i ∧ r.projectId = p) ∧
    (∀ r ∈ listed w.store, ∀ now draft,
      TellsApart (Export.preimage draft.projectId r.id :: messages (listed w.store)) →
      ((do let _ ← update now r.id draft; findByHash (Export.hashOf r)).runIn around.calm w).1 =
        .ok (if draft.projectId = r.projectId then some (draft.applyTo now r) else none)) ∧
    (∀ r ∈ listed w.store,
      ((do delete r.id; findByHash (Export.hashOf r)).runIn around.calm w).1 = .ok none) ∧
    (∀ p i, (Export.hash p i).length = 43 ∧
      ∀ c ∈ (Export.hash p i).toList, c.isAlphanum ∨ c = '-' ∨ c = '_') ∧
    ∀ r, Endpoint.find? "GET" (Http.splitTarget (Export.url r)).1 =
      some (.export (Export.hashOf r)) := by
  have h : Separate w.store := ⟨hids, hdigests⟩
  refine ⟨fun hash => ?_, fun p i hi hdigest => ?_, fun r hr now draft hdigest => ?_,
    fun r hr => ?_, fun p i => ?_, Export.find?_url⟩
  · exact ⟨_, findByHash_runIn hash, fun r => h.find?_eq_some_iff hash⟩
  · exact ⟨_, findByHash_runIn _, fun r => h.find?_hash_eq_some_iff hi hdigest⟩
  · exact findByHash_after_update h hr hdigest
  · exact findByHash_after_delete h hr
  · refine ⟨Export.length_hash p i, fun c hc => ?_⟩
    simpa [Digest.isLetter, or_assoc] using Export.isLetter_of_mem_hash hc

/-- The name of a project may hold a colon: the link of the ruleset of such a project finds it, and
the link of its id and another project finds nothing. -/
theorem links_of_two_projects :
    let now : Time.Timestamp := ⟨⟨2024, 6, 1, by decide⟩, 12, 30, 0, 0, by decide⟩
    let around := Surroundings.plain ⟨⟨"u-1", by decide⟩, "Ada", "ada@example.com", none⟩
    let walls : Ruleset := ⟨"c", "walls", "", "a:b", [], now, now⟩
    let doors : Ruleset := ⟨"d", "doors", "", "a", [], now, now⟩
    let store := (Store.empty.set .rulesets "c" walls.toJson).set .rulesets "d" doors.toJson
    let w : World := { World.start with store := store }
    (∀ d ∈ (w.store.shelf .rulesets).documents, ':' ∉ d.id.toList) ∧
      TellsApart (Export.preimage "a" "c" :: messages (listed w.store)) ∧
      ((findByHash (Export.hash "a:b" "c")).runIn around.calm w).1 = .ok (some walls) ∧
      ((findByHash (Export.hash "a" "c")).runIn around.calm w).1 = .ok none := by
  intro now around walls doors store w
  have hlisted : listed w.store = [walls, doors] := by decide +kernel
  have hids : ∀ d ∈ (w.store.shelf .rulesets).documents, ':' ∉ d.id.toList := by decide
  have hother : TellsApart (Export.preimage "a" "c" :: messages (listed w.store)) := by
    rw [hlisted]
    decide +kernel
  have hdigests : TellsApart (messages (listed w.store)) :=
    hother.mono fun _ => List.mem_cons_of_mem _
  obtain ⟨-, hpair, -⟩ := links_open_own around w hids hdigests
  have hwalls : Export.preimage "a:b" "c" ∈ messages (listed w.store) :=
    preimage_mem_messages (r := walls) (by simp [hlisted])
  obtain ⟨found, hrun, hfound⟩ := hpair "a:b" "c" (by decide)
    (hdigests.mono fun x hx => (List.mem_cons.mp hx).elim (· ▸ hwalls) id)
  obtain ⟨other, hrun', hnone⟩ := hpair "a" "c" (by decide) hother
  refine ⟨hids, hother, ?_, ?_⟩
  · rw [hrun, (hfound walls).mpr ⟨by simp [hlisted], rfl, rfl⟩]
  · rw [hrun']
    refine congrArg Except.ok (Option.eq_none_iff_forall_ne_some.mpr fun r hr => ?_)
    obtain ⟨hmem, hid, hproject⟩ := (hnone r).mp hr
    rw [hlisted] at hmem
    simp only [List.mem_cons, List.not_mem_nil, or_false] at hmem
    rcases hmem with rfl | rfl <;> simp [walls, doors] at hid hproject

end Rulesets

end Rulebook
