import Rulebook.Page.Layout
import Rulebook.Proofs.Page.Hole

/-!
# The fields on a page

What a page asks for is read off its text: at every `<` a field may begin, an input with its value
or a text area with the text in it (`Html.fields`). The reader knows nothing of pieces. It passes
over holes, since no data holds a `<`, and over fixed text in which no field begins (`Html.quiet`),
so the fields of a page come from the few tags that are left open for a hole (`Page.Reads`). The
frame around a page has none (`Page.Reads.layout`).
-/

namespace Rulebook

namespace Text.Html

/-! ## The reader -/

def inputStart : List Char :=
  "input ".toList

def areaStart : List Char :=
  "textarea ".toList

/-- The value of an attribute among the parts of a tag between its quotes. -/
def attribute? (key : String) : List (List Char) → Option String
  | lead :: value :: rest =>
    if (" " ++ key ++ "=").toList.isSuffixOf lead then some (String.ofList (unescapeChars value))
    else attribute? key rest
  | _ => none

/-- The field that begins with a tag. -/
def field? (cs : List Char) : Option (String × String) :=
  let tag := cs.takeWhile (· ≠ '>')
  let parts := tag.splitOn '"'
  if inputStart.isPrefixOf cs then
    (attribute? "name" parts).map fun name => (name, (attribute? "value" parts).getD "")
  else if areaStart.isPrefixOf cs then
    let text := (cs.drop (tag.length + 1)).takeWhile (· ≠ '<')
    (attribute? "name" parts).map fun name => (name, String.ofList (unescapeChars text))
  else none

/-- The fields that begin in `cs`. -/
def fieldsFrom : List Char → List (String × String)
  | [] => []
  | c :: cs => if c = '<' then (field? cs).toList ++ fieldsFrom cs else fieldsFrom cs

/-- The fields in a text, with their values, in the order they stand in. -/
def fields (text : String) : List (String × String) :=
  fieldsFrom text.toList

/-! ## Text without fields -/

/-- Whatever comes after `cs`, it begins no tag of a field. -/
def other (cs : List Char) : Bool :=
  [inputStart, areaStart].all fun start => !start.isPrefixOf cs && !cs.isPrefixOf start

/-- No field begins in `cs`. -/
def quiet : List Char → Bool
  | [] => true
  | c :: cs => (c != '<' || other cs) && quiet cs

variable {cs ds rest : List Char} {start key : String} {s : String}

theorem isPrefixOf_append_eq_false {start : List Char} (h : start.isPrefixOf cs = false)
    (h' : cs.isPrefixOf start = false) (ds : List Char) :
    start.isPrefixOf (cs ++ ds) = false ∧ (cs ++ ds).isPrefixOf start = false := by
  simp only [← Bool.not_eq_true, List.isPrefixOf_iff_prefix] at h h' ⊢
  refine ⟨fun hlong => ?_, fun hlong => h' ((List.prefix_append cs ds).trans hlong)⟩
  exact (List.prefix_or_prefix_of_prefix hlong (List.prefix_append cs ds)).elim h h'

theorem other_append (h : other cs = true) (ds : List Char) : other (cs ++ ds) = true := by
  rw [other, List.all_eq_true] at h ⊢
  intro start hstart
  have hcs := h start hstart
  simp only [Bool.and_eq_true, Bool.not_eq_true'] at hcs ⊢
  exact isPrefixOf_append_eq_false hcs.1 hcs.2 ds

theorem field?_of_other (h : other cs = true) : field? cs = none := by
  simp only [other, List.all_cons, List.all_nil, Bool.and_true, Bool.and_eq_true,
    Bool.not_eq_true'] at h
  simp [field?, h.1.1, h.2.1]

theorem fieldsFrom_append_of_quiet (h : quiet cs = true) (rest : List Char) :
    fieldsFrom (cs ++ rest) = fieldsFrom rest := by
  induction cs with
  | nil => rfl
  | cons c cs ih =>
    simp only [quiet, Bool.and_eq_true, Bool.or_eq_true, bne_iff_ne] at h
    rw [List.cons_append, fieldsFrom, ih h.2]
    split
    · next hc => rw [field?_of_other (other_append (h.1.resolve_left (absurd hc)) _)]; rfl
    · rfl

theorem quiet_append (h : quiet cs = true) (h' : quiet ds = true) : quiet (cs ++ ds) = true := by
  induction cs with
  | nil => exact h'
  | cons c cs ih =>
    simp only [quiet, Bool.and_eq_true, Bool.or_eq_true] at h
    rw [List.cons_append, quiet, ih h.2, Bool.and_true, Bool.or_eq_true]
    exact h.1.imp_right fun hother => other_append hother ds

theorem quiet_of_not_mem (h : '<' ∉ cs) : quiet cs = true := by
  induction cs with
  | nil => rfl
  | cons c cs ih =>
    rw [List.mem_cons, not_or] at h
    simp [quiet, Ne.symm h.1, ih h.2]

/-- No field begins in what fills a hole. -/
theorem quiet_escape (s : String) : quiet (escape s).toList = true :=
  quiet_of_not_mem fun h => absurd (isMarkup_of_mem_escape h) (by decide)

/-! ## Tags that are left open for a value -/

/-- A tag is left open where the value of its field belongs; `close` is what has to follow it. -/
def Asks (tag : List Char) (key : String) (close : List Char) : Prop :=
  ∀ value rest, fieldsFrom ('<' :: tag ++ (escape value).toList ++ close ++ rest) =
    (key, value) :: fieldsFrom (close ++ rest)

/-- Once a tag is read as a field, nothing else begins in it or in the value. -/
theorem asks_of_field? {tag close : List Char} (htag : '<' ∉ tag)
    (h : ∀ value rest, field? (tag ++ (escape value).toList ++ close ++ rest) = some (key, value)) :
    Asks tag key close := by
  intro value rest
  have hquiet := quiet_append (quiet_of_not_mem htag) (quiet_escape value)
  rw [List.cons_append, List.cons_append, List.cons_append, fieldsFrom, if_pos rfl, h,
    List.append_assoc, fieldsFrom_append_of_quiet hquiet]
  rfl

/-- Text without markup. -/
def plain (cs : List Char) : Bool :=
  cs.all fun c => !isMarkup c

theorem isMarkup_of_plain (h : plain cs = true) {c : Char} (hc : c ∈ cs) : isMarkup c = false := by
  simpa using List.all_eq_true.mp h c hc

theorem plain_escape (s : String) : plain (escape s).toList = true :=
  List.all_eq_true.mpr fun c hc => by rw [isMarkup_of_mem_escape hc, Bool.not_false]

/-- A tag of parts with quotes between them. -/
def tagOf (parts : List (List Char)) : List Char :=
  ['"'].intercalate parts

section Parts

variable {parts : List (List Char)} (hparts : parts.all plain = true)

include hparts

theorem splitOn_tagOf (hne : parts ≠ []) : (tagOf parts).splitOn '"' = parts := by
  refine List.splitOn_intercalate '"' (fun part hpart hmem => ?_) hne
  exact absurd (isMarkup_of_plain (List.all_eq_true.mp hparts part hpart) hmem) (by decide)

/-- The only markup in a tag are its quotes. -/
theorem not_mem_tagOf {c : Char} (hc : isMarkup c = true) (hquote : c ≠ '"') : c ∉ tagOf parts := by
  have hout : ∀ part ∈ parts, c ∉ part := by
    intro part hpart hmem
    have hplain := isMarkup_of_plain (List.all_eq_true.mp hparts part hpart) hmem
    exact Bool.false_ne_true (hplain.symm.trans hc)
  clear hparts
  unfold tagOf
  induction parts with
  | nil => exact List.not_mem_nil
  | cons part rest ih =>
    rw [List.forall_mem_cons] at hout
    cases rest with
    | nil => simpa only [List.intercalate_singleton] using hout.1
    | cons next rest =>
      simp only [List.intercalate_cons_cons, List.mem_append, List.mem_singleton, not_or]
      exact ⟨⟨hout.1, hquote⟩, ih hout.2⟩

theorem takeWhile_tagOf (rest : List Char) :
    (tagOf parts ++ '>' :: rest).takeWhile (· ≠ '>') = tagOf parts := by
  have hout := not_mem_tagOf hparts rfl (by decide : '>' ≠ '"')
  rw [List.takeWhile_append_of_pos, List.takeWhile_cons_of_neg (by simp), List.append_nil]
  intro c hc
  exact decide_eq_true fun heq => hout (heq ▸ hc)

end Parts

/-- A character of the name of a field. -/
def isNameChar (c : Char) : Bool :=
  c.isAlphanum || c = '[' || c = ']'

/-- The tag of an input, open where its value belongs, which comes after `lead`. -/
def inputTag (key : String) (lead : List Char) : List Char :=
  tagOf [inputStart ++ "name=".toList, key.toList, lead, []]

/-- The tag of a text area. -/
def areaTag (key : String) : List Char :=
  tagOf [areaStart ++ "name=".toList, key.toList, []]

section Keys

variable (hkey : key.toList.all isNameChar = true)

include hkey

theorem plain_key : plain key.toList = true :=
  List.all_eq_true.mpr fun c hc => by
    rw [isMarkup_of (by decide) (List.all_eq_true.mp hkey c hc), Bool.not_false]

theorem unescape_key : String.ofList (unescapeChars key.toList) = key := by
  have hplain : ∀ cs : List Char, cs.all isNameChar = true → unescapeChars cs = cs := by
    intro cs hcs
    induction cs with
    | nil => rfl
    | cons c cs ih =>
      rw [List.all_cons, Bool.and_eq_true] at hcs
      rw [unescapeChars_cons (fun hamp => absurd (hamp ▸ hcs.1) (by decide)), ih hcs.2]
  rw [hplain _ hkey, String.ofList_toList]

theorem asks_input {lead : List Char} (hlead : plain lead = true)
    (hvalue : " value=".toList.isSuffixOf lead = true) :
    Asks (inputTag key lead) key ['"', '>'] := by
  have hstart : plain (inputStart ++ "name=".toList) = true := by decide
  have htag : '<' ∉ inputTag key lead := by
    refine not_mem_tagOf ?_ rfl (by decide)
    simp only [List.all_cons, hstart, plain_key hkey, hlead]
    rfl
  refine asks_of_field? htag fun value rest => ?_
  let parts := [inputStart ++ "name=".toList, key.toList, lead, (escape value).toList, []]
  have hparts : parts.all plain = true := by
    simp only [parts, List.all_cons, hstart, plain_key hkey, hlead, plain_escape]
    rfl
  have hcs : inputTag key lead ++ (escape value).toList ++ ['"', '>'] ++ rest =
      tagOf parts ++ '>' :: rest := by
    simp [inputTag, tagOf, parts, List.intercalate_cons_cons]
  have hinput : inputStart.isPrefixOf (tagOf parts ++ '>' :: rest) = true := by
    rw [List.isPrefixOf_iff_prefix]
    simp only [tagOf, parts, List.intercalate_cons_cons, List.append_assoc, List.prefix_append]
  have hname? : attribute? "name" parts = some (String.ofList (unescapeChars key.toList)) :=
    if_pos (by decide)
  have hvalue? : attribute? "value" parts = some (unescape (escape value)) :=
    (if_neg (by decide)).trans (if_pos hvalue)
  rw [hcs, field?, takeWhile_tagOf hparts, splitOn_tagOf hparts (List.cons_ne_nil _ _)]
  dsimp only
  rw [if_pos hinput, hname?, hvalue?, unescape_escape, unescape_key hkey]
  rfl

theorem asks_area : Asks (areaTag key ++ ['>']) key ['<'] := by
  let parts := [areaStart ++ "name=".toList, key.toList, []]
  have hparts : parts.all plain = true := by
    have hstart : plain (areaStart ++ "name=".toList) = true := by decide
    simp only [parts, List.all_cons, hstart, plain_key hkey]
    rfl
  refine asks_of_field? ?_ fun value rest => ?_
  · rw [List.mem_append, List.mem_singleton]
    exact fun hmem => hmem.elim (not_mem_tagOf hparts rfl (by decide)) (by decide)
  have hcs : areaTag key ++ ['>'] ++ (escape value).toList ++ ['<'] ++ rest =
      tagOf parts ++ '>' :: ((escape value).toList ++ '<' :: rest) := by
    simp [areaTag, parts]
  have hunfold : tagOf parts = areaStart ++ ("name=".toList ++ '"' :: (key.toList ++ ['"'])) := by
    simp [tagOf, parts, List.intercalate_cons_cons]
  have hinput : inputStart.isPrefixOf (tagOf parts ++
      '>' :: ((escape value).toList ++ '<' :: rest)) = false := by
    rw [hunfold, List.append_assoc]
    exact (isPrefixOf_append_eq_false (by decide) (by decide) _).1
  have harea : areaStart.isPrefixOf (tagOf parts ++
      '>' :: ((escape value).toList ++ '<' :: rest)) = true := by
    rw [List.isPrefixOf_iff_prefix, hunfold, List.append_assoc]
    exact List.prefix_append _ _
  have hname? : attribute? "name" parts = some (String.ofList (unescapeChars key.toList)) :=
    if_pos (by decide)
  have htext : ((tagOf parts ++ '>' :: ((escape value).toList ++ '<' :: rest)).drop
      ((tagOf parts).length + 1)).takeWhile (· ≠ '<') = (escape value).toList := by
    rw [← List.drop_drop, List.drop_left, List.drop_one, List.tail_cons,
      List.takeWhile_append_of_pos, List.takeWhile_cons_of_neg (by simp), List.append_nil]
    intro c hc
    exact decide_eq_true fun heq => absurd (isMarkup_of_mem_escape (heq ▸ hc)) (by decide)
  rw [hcs, field?, takeWhile_tagOf hparts, splitOn_tagOf hparts (List.cons_ne_nil _ _)]
  dsimp only
  rw [hinput, if_neg Bool.false_ne_true, if_pos harea, htext, hname?, unescape_key hkey,
    Option.map_some]
  exact congrArg (fun text => some (key, text)) (unescape_escape value)

end Keys

end Text.Html

namespace Page

open Text.Html (fields fieldsFrom quiet Asks)

variable {p q body script : Page} {s l : String} {ls : List String}
  {fs gs : List (String × String)} {tag tag' close cs : List Char} {key : String}

/-- The characters of a page. -/
def chars (p : Page) : List Char :=
  p.flatMap fun piece => piece.render.toList

theorem toList_render (p : Page) : p.render.toList = p.chars := by
  rw [render, String.toList_join, List.flatMap_map]
  rfl

@[simp] theorem chars_append (p q : Page) : (p ++ q).chars = p.chars ++ q.chars :=
  List.flatMap_append

@[simp] theorem chars_text (s : String) : chars [.text s] = (Text.Html.escape s).toList :=
  List.flatMap_singleton _ _

@[simp] theorem chars_lines_singleton (l : String) : (lines [l]).chars = l.toList := by
  simp [chars, lines, Piece.render]

theorem chars_lines_cons (l m : String) (ls : List String) :
    (lines (l :: m :: ls)).chars = l.toList ++ '\n' :: (lines (m :: ls)).chars := by
  simp [chars, lines, Piece.render, String.toList_intercalate]

/-- The fields that are read on a page, and the tag that it leaves open at its end. -/
def Reads (p : Page) (fs : List (String × String)) (tag : List Char) : Prop :=
  ∀ rest, fieldsFrom (p.chars ++ rest) = fs ++ fieldsFrom (tag ++ rest)

-- `rfl` finds the characters of a literal; to compute its `toList` would take long for a long line
theorem quiet_cons (hl : l = String.ofList cs) (h : quiet cs = true)
    (hls : ∀ m ∈ ls, quiet m.toList = true) : ∀ m ∈ l :: ls, quiet m.toList = true :=
  List.forall_mem_cons.mpr ⟨by rwa [hl, String.toList_ofList], hls⟩

namespace Reads

theorem fields_render (h : p.Reads fs []) : fields p.render = fs := by
  rw [fields, toList_render, ← List.append_nil p.chars, h []]
  exact List.append_nil fs

theorem append (hp : p.Reads fs []) (hq : q.Reads gs tag) : (p ++ q).Reads (fs ++ gs) tag := by
  intro rest
  rw [chars_append, List.append_assoc, hp, List.nil_append, hq, List.append_assoc]

theorem behind (hp : p.Reads [] []) (hq : q.Reads fs tag) : (p ++ q).Reads fs tag :=
  hp.append hq

theorem before (hp : p.Reads fs []) (hq : q.Reads [] tag) : (p ++ q).Reads fs tag :=
  List.append_nil fs ▸ hp.append hq

theorem cons {piece : Piece} (h : Reads [piece] [] []) (hp : p.Reads fs tag) :
    Reads (piece :: p) fs tag :=
  h.append hp

theorem of_quiet (h : quiet p.chars = true) : p.Reads [] [] :=
  fun rest => Text.Html.fieldsFrom_append_of_quiet h rest

theorem text (s : String) : Reads [.text s] [] [] :=
  .of_quiet (by rw [chars_text, Text.Html.quiet_escape])

theorem fixed (h : quiet s.toList = true) : Reads [.fixed s] [] [] :=
  .of_quiet (by rwa [chars, List.flatMap_singleton])

theorem line (hl : quiet l.toList = true) {m : String} (h : (lines (m :: ls)).Reads fs tag) :
    (lines (l :: m :: ls)).Reads fs tag := by
  intro rest
  rw [chars_lines_cons, List.append_assoc, Text.Html.fieldsFrom_append_of_quiet hl]
  exact h rest

theorem lines (h : ∀ l ∈ ls, quiet l.toList = true) : (lines ls).Reads [] [] := by
  induction ls with
  | nil => exact .of_quiet rfl
  | cons l ls ih =>
    rw [List.forall_mem_cons] at h
    cases ls with
    | nil => exact .of_quiet (by rw [chars_lines_singleton, h.1])
    | cons m ls => exact .line h.1 (ih h.2)

/-- The last line leaves a tag open. -/
theorem opened (before tag : String) (hl : l = before ++ "<" ++ tag)
    (hquiet : quiet before.toList = true) : (Page.lines [l]).Reads [] ('<' :: tag.toList) := by
  intro rest
  rw [chars_lines_singleton, hl, String.toList_append, String.toList_append, List.append_assoc,
    List.append_assoc, Text.Html.fieldsFrom_append_of_quiet hquiet]
  rfl

theorem extend (hp : p.Reads fs tag) (q : Page) : (p ++ q).Reads fs (tag ++ q.chars) := by
  intro rest
  rw [chars_append, List.append_assoc, hp, List.append_assoc]

/-- A hole behind a tag that is left open for it holds the value of a field. -/
theorem field (hp : p.Reads fs ('<' :: tag)) (hasks : Asks tag key close)
    (hl : l = String.ofList (close ++ cs)) (hq : (Page.lines (l :: ls)).Reads gs tag') :
    Reads (p ++ [.text s] ++ Page.lines (l :: ls)) (fs ++ (key, s) :: gs) tag' := by
  intro rest
  obtain ⟨after, hafter⟩ : ∃ after, (Page.lines (l :: ls)).chars = close ++ after := by
    cases ls with
    | nil => exact ⟨cs, by rw [chars_lines_singleton, hl, String.toList_ofList]⟩
    | cons m ls =>
      refine ⟨cs ++ '\n' :: (Page.lines (m :: ls)).chars, ?_⟩
      rw [chars_lines_cons, hl, String.toList_ofList, List.append_assoc]
  let text := (Text.Html.escape s).toList
  calc fieldsFrom (chars (p ++ [.text s] ++ Page.lines (l :: ls)) ++ rest)
      = fs ++ fieldsFrom ('<' :: tag ++ text ++ close ++ (after ++ rest)) := by
        rw [chars_append, chars_append, chars_text, hafter, List.append_assoc, List.append_assoc,
          hp]
        simp only [List.append_assoc, text]
    _ = fs ++ (key, s) :: fieldsFrom ((Page.lines (l :: ls)).chars ++ rest) := by
        rw [hasks, hafter, List.append_assoc]
    _ = fs ++ (key, s) :: gs ++ fieldsFrom (tag' ++ rest) := by
        rw [hq, List.append_assoc]
        rfl

theorem flatten_mapIdx {α : Type} {items : List α} {part : Nat → α → Page}
    {fieldsAt : Nat → α → List (String × String)} (h : ∀ i a, (part i a).Reads (fieldsAt i a) []) :
    Reads (items.mapIdx part).flatten (items.mapIdx fieldsAt).flatten [] := by
  induction items generalizing part fieldsAt with
  | nil => exact .of_quiet rfl
  | cons a items ih =>
    rw [List.mapIdx_cons, List.mapIdx_cons, List.flatten_cons, List.flatten_cons]
    exact (h 0 a).append (ih fun i => h (i + 1))

/-- The fields of a part for each item follow each other. -/
theorem forEach {α : Type} {items : List α} {part : Nat → α → Page}
    {fieldsAt : Nat → α → List (String × String)} (h : ∀ i a, (part i a).Reads (fieldsAt i a) []) :
    Reads (forEach items part []) (items.mapIdx fieldsAt).flatten [] := by
  cases items with
  | nil => exact .of_quiet rfl
  | cons a items => exact flatten_mapIdx h

/-- The frame around a page has no fields. -/
theorem layout (title : String) (user : Option User) (hbody : body.Reads fs [])
    (hscript : script.Reads [] []) : (layout title user body script).Reads fs [] := by
  have hbar : afterTitle.Reads [] [] := by
    refine lines ?_
    iterate 3 refine quiet_cons rfl (by decide) ?_
    refine quiet_cons String.ofList_append.symm (by decide) ?_
    repeat refine quiet_cons rfl (by decide) ?_
    exact nofun
  have hlinks : ((user.map links).getD []).Reads [] [] := by
    cases user with
    | none => exact .of_quiet rfl
    | some user =>
      refine .before (.before (lines ?_) (text user.name)) (lines ?_)
      all_goals
        repeat refine quiet_cons rfl (by decide) ?_
        exact nofun
  have hhead := ((before (p := beforeTitle) (lines ?_) (text title)).before hbar).before hlinks
  refine .before (.before (.before (.behind (.before hhead (lines ?_)) hbody) (lines ?_)) hscript)
    (lines ?_)
  all_goals
    repeat refine quiet_cons rfl (by decide) ?_
    exact nofun

end Reads

end Page

end Rulebook
