import Mathlib.Data.List.Forall2
import Rulebook.Page.Entrance
import Rulebook.Page.Projects
import Rulebook.Page.Rules
import Rulebook.Page.Rulesets
import Rulebook.Proofs.Page.Hole

/-!
# Markup comes from the pages alone

A page is fixed text with holes in it. Which fixed text there is, and where the holes are, depends
on the shape of what is shown only (`View.shape`): how long lists are, which values are there and
which texts are empty. Pages of one shape are alike piece by piece (`View.alike`), and what fills
the holes holds no markup, so nobody's data can add or change any (`View.markup_of_shape`).
-/

namespace Rulebook

/-! ## Pieces that are alike -/

namespace Piece

/-- Two pieces that differ in their data at most. An address is one that an export may have. -/
inductive Alike : Piece → Piece → Prop
  | fixed (s : String) : Alike (.fixed s) (.fixed s)
  | text (a b : String) : Alike (.text a) (.text b)
  | query (a b : String) : Alike (.query a) (.query b)
  | address {a b : String} (ha : ∀ c ∈ a.toList, Export.isAddress c = true)
      (hb : ∀ c ∈ b.toList, Export.isAddress c = true) : Alike (.address a) (.address b)

/-- A piece without its data. -/
def blank : Piece → Piece
  | .fixed s => .fixed s
  | .text _ => .text ""
  | .query _ => .query ""
  | .address _ => .address ""

/-- What is shown in a hole keeps to the alphabet of the hole, and in an ordinary one says exactly
what the data is. -/
def Harmless (p : Piece) : Prop :=
  match p with
  | .fixed _ => True
  | .text data =>
    (∀ c ∈ p.render.toList, Text.Html.isMarkup c = false) ∧ Text.Html.unescape p.render = data
  | .query _ => ∀ c ∈ p.render.toList, Text.Percent.isStrict c = true
  | .address _ => ∀ c ∈ p.render.toList, Export.isAddress c = true

variable {p q : Piece}

theorem Alike.blank_eq (h : p.Alike q) : p.blank = q.blank := by
  cases h <;> rfl

theorem Alike.harmless (h : p.Alike q) : p.Harmless := by
  cases h with
  | fixed s => trivial
  | text a b => exact ⟨fun _ => Text.Html.isMarkup_of_mem_escape, Text.Html.unescape_escape a⟩
  | query a b => exact fun _ => Text.Percent.isStrict_of_mem_encodeStrict
  | address ha hb => exact ha

/-- The markup in a piece. -/
def markup (p : Piece) : List Char :=
  p.render.toList.filter Text.Html.isMarkup

/-- Only fixed text holds markup. -/
theorem Harmless.markup_eq (h : p.Harmless) : p.markup = p.blank.markup := by
  have hempty : ∀ s : String, (∀ c ∈ s.toList, Text.Html.isMarkup c = false) →
      s.toList.filter Text.Html.isMarkup = [] := by
    intro s hs
    rw [List.filter_eq_nil_iff]
    intro c hc
    rw [hs c hc]
    exact Bool.false_ne_true
  cases p with
  | fixed s => rfl
  | text data => exact hempty _ h.1
  | query data => exact hempty _ fun c hc => Text.Percent.isMarkup_of_isStrict (h c hc)
  | address path => exact hempty _ fun c hc => Export.isMarkup_of_isAddress (h c hc)

end Piece

/-! ## Pages that are alike -/

namespace Page

/-- Two pages that are alike piece by piece. -/
def Alike (p q : Page) : Prop :=
  List.Forall₂ Piece.Alike p q

/-- A page without its data. -/
def skeleton (p : Page) : Page :=
  p.map Piece.blank

/-- The markup on a page, in order. -/
def markup (p : Page) : List Char :=
  p.render.toList.filter Text.Html.isMarkup

theorem Alike.skeleton_eq {p q : Page} (h : p.Alike q) : p.skeleton = q.skeleton := by
  unfold Alike at h
  induction h with
  | nil => rfl
  | cons hpiece _ ih => exact congrArg₂ List.cons hpiece.blank_eq ih

theorem Alike.harmless {p q : Page} (h : p.Alike q) : ∀ piece ∈ p, piece.Harmless := by
  unfold Alike at h
  induction h with
  | nil => simp
  | cons hpiece _ ih => exact List.forall_mem_cons.mpr ⟨hpiece.harmless, ih⟩

theorem markup_eq_flatMap (p : Page) : p.markup = p.flatMap Piece.markup := by
  rw [markup, render, String.toList_join, List.flatMap_map, List.filter_flatMap]
  rfl

/-- The markup of a page with harmless holes is that of its fixed text. -/
theorem markup_skeleton {p : Page} (h : ∀ piece ∈ p, piece.Harmless) :
    p.skeleton.markup = p.markup := by
  rw [markup_eq_flatMap, markup_eq_flatMap, skeleton, List.flatMap_map]
  induction p with
  | nil => rfl
  | cons piece p ih =>
    rw [List.forall_mem_cons] at h
    rw [List.flatMap_cons, List.flatMap_cons, ih h.2, h.1.markup_eq]

/-! ## How likeness goes through a page -/

section Parts

variable {p q p' q' : Page}

theorem alike_lines {ls : List String} : (lines ls).Alike (lines ls) :=
  .cons (.fixed _) .nil

theorem alike_text {a b : String} : Alike [.text a] [.text b] :=
  .cons (.text a b) .nil

theorem Alike.append (h : p.Alike q) (h' : p'.Alike q') : (p ++ p').Alike (q ++ q') :=
  List.rel_append h h'

/-- What follows is fixed. -/
theorem Alike.lines (h : p.Alike q) {ls : List String} :
    (p ++ Page.lines ls).Alike (q ++ Page.lines ls) :=
  h.append alike_lines

/-- What follows is a hole. -/
theorem Alike.text (h : p.Alike q) {a b : String} :
    (p ++ [Piece.text a]).Alike (q ++ [Piece.text b]) :=
  h.append alike_text

theorem Alike.query (h : p.Alike q) {a b : String} :
    (p ++ [Piece.query a]).Alike (q ++ [Piece.query b]) :=
  h.append (.cons (.query a b) .nil)

/-- What follows is the address of an export. -/
theorem Alike.export (h : p.Alike q) {r r' : Ruleset} :
    (p ++ [Piece.address (Export.url r)]).Alike (q ++ [Piece.address (Export.url r')]) :=
  h.append (.cons (.address (fun _ => Export.isAddress_of_mem_url)
    (fun _ => Export.isAddress_of_mem_url)) .nil)

theorem Alike.when (h : p.Alike q) (shown : Bool) :
    (Page.when shown p).Alike (Page.when shown q) := by
  cases shown
  · exact .nil
  · exact h

/-- Whether there is a text to show. -/
def told (s : Option String) : Bool :=
  s.any (· ≠ "")

/-- A part that shows a text is there if the text is. -/
theorem Alike.ifText {s s' : Option String} {part part' : String → Page}
    (h : told s = told s') (hpart : ∀ a b, (part a).Alike (part' b)) :
    (Page.ifText s part).Alike (Page.ifText s' part') := by
  have hshown : ∀ s part, Page.ifText s part = if told s then part (s.getD "") else [] := by
    intro s part
    cases s <;> rfl
  rw [hshown, hshown, h]
  exact Alike.when (hpart _ _) (told s')

/-- Lists of the same length are shown alike if their items are. -/
theorem Alike.forEach {α β : Type} {xs : List α} {ys : List β} {part : Nat → α → Page}
    {part' : Nat → β → Page} {otherwise : Page} (hlength : xs.length = ys.length)
    (hnone : otherwise.Alike otherwise)
    (hpart : ∀ i (hx : i < xs.length) (hy : i < ys.length), (part i xs[i]).Alike (part' i ys[i])) :
    (Page.forEach xs part otherwise).Alike (Page.forEach ys part' otherwise) := by
  have hitems : List.Forall₂ Page.Alike (xs.mapIdx part) (ys.mapIdx part') := by
    refine List.forall₂_iff_get.mpr ⟨by simp [hlength], fun i hx hy => ?_⟩
    simp only [List.get_eq_getElem, List.getElem_mapIdx]
    exact hpart i (by simpa using hx) (by simpa using hy)
  cases xs with
  | nil =>
    obtain rfl : ys = [] := List.length_eq_zero_iff.mp hlength.symm
    exact hnone
  | cons x xs =>
  cases ys with
  | nil => cases hlength
  | cons y ys => exact List.rel_flatten hitems

/-- Lists whose items have the same shapes in order are shown alike. -/
theorem Alike.forEach_of_map {α β γ : Type} {xs : List α} {ys : List β} {f : α → γ} {g : β → γ}
    {part : Nat → α → Page} {part' : Nat → β → Page} {otherwise : Page}
    (h : xs.map f = ys.map g) (hnone : otherwise.Alike otherwise)
    (hpart : ∀ i x y, f x = g y → (part i x).Alike (part' i y)) :
    (Page.forEach xs part otherwise).Alike (Page.forEach ys part' otherwise) := by
  have hlength : xs.length = ys.length := by simpa using congrArg List.length h
  refine .forEach hlength hnone fun i hx hy => hpart i _ _ ?_
  have hget := List.getElem_of_eq h (by simpa using hx)
  simpa using hget

end Parts

/-! ## The pages -/

theorem Alike.layout {title title' : String} {user user' : Option User} {body body' script : Page}
    (huser : user.isSome = user'.isSome) (hbody : body.Alike body')
    (hscript : script.Alike script) :
    (Page.layout title user body script).Alike (Page.layout title' user' body' script) := by
  have hlinks : ((user.map links).getD []).Alike ((user'.map links).getD []) := by
    cases user <;> cases user' <;> cases huser
    · exact .nil
    · exact alike_lines.text.lines
  exact alike_lines.text.lines.append hlinks |>.lines.append hbody |>.lines.append hscript |>.lines

section Entrance

variable {user user' : User}

theorem alike_login {user user' : Option User} (h : user.isSome = user'.isSome) :
    (login user).Alike (login user') :=
  .layout h alike_lines alike_lines

theorem alike_welcome : (welcome user).Alike (welcome user') :=
  .layout rfl alike_lines.text.lines .nil

theorem alike_failure {status status' : Nat} {message message' : String}
    {traceId traceId' : Option String} (h : told traceId = told traceId') :
    (failure status message traceId).Alike (failure status' message' traceId') :=
  .layout rfl
    (alike_lines.text.lines.text.append (.ifText h fun _ _ => .cons (.fixed _) alike_text) |>.lines)
    .nil

end Entrance

section Projects

variable {user user' : User} {m m' : ProjectModel} {p p' : Project}

/-- What the list of projects depends on in a model: how many versions there are and whether the
first says where it came from. -/
def lineShape (m : ProjectModel) : Nat × Bool :=
  (m.versions.length, told m.latestSource)

/-- What the page of a project depends on in a model: whether it is known where the model came from
and whether there is a preview. -/
def rowShape (m : ProjectModel) : Bool × Bool :=
  (told m.latestSource, told m.previewUrl)

/-- What the list of projects depends on in a project. -/
def sectionShape (p : Project) : Bool × List (Nat × Bool) :=
  (told p.description, p.models.items.map lineShape)

/-- The newest version is the only one that is asked where it came from. -/
theorem latestSource_of_getElem {i : Nat} (h : i < m.versions.length) (hzero : i = 0) :
    m.versions[i].sourceApplication = m.latestSource := by
  subst hzero
  rw [ProjectModel.latestSource, List.head?_eq_getElem?, List.getElem?_eq_getElem h]
  rfl

theorem alike_description {s s' : Option String} (h : told s = told s') :
    (description s).Alike (description s') :=
  .ifText h fun _ _ => .cons (.fixed _) (alike_text.append (.cons (.fixed _) .nil))

theorem alike_modelLine {i j : Nat} (h : lineShape m = lineShape m') :
    (modelLine i m).Alike (modelLine j m') := by
  obtain ⟨hlength, hsource⟩ := Prod.mk.inj h
  refine alike_lines.text.lines.append (.forEach hlength .nil fun k hk hk' => ?_) |>.lines
  refine alike_lines.append ?_ |>.lines
  by_cases hzero : k = 0
  · refine .when (.ifText ?_ fun _ _ => ?_) _
    · rw [latestSource_of_getElem hk hzero, latestSource_of_getElem hk' hzero]
      exact hsource
    · exact .cons (.fixed _) (alike_text.append (.cons (.fixed _) .nil))
  · simp only [hzero, decide_false]
    exact .nil

theorem alike_projectSection {i j : Nat} (h : sectionShape p = sectionShape p') :
    (projectSection i p).Alike (projectSection j p') := by
  obtain ⟨hdescription, hmodels⟩ := Prod.mk.inj h
  exact alike_lines.append (.cons (.text _ _) (.cons (.fixed _) alike_text)) |>.lines
    |>.append (alike_description hdescription) |>.lines
    |>.append (.forEach_of_map hmodels .nil fun _ _ _ => alike_modelLine) |>.lines

theorem alike_projects {page page' : ProjectPage} {next next' search search' : Option String}
    (hitems : page.items.map sectionShape = page'.items.map sectionShape)
    (hnext : told next = told next') (hsearch : told search = told search') :
    (projects user page next search).Alike (projects user' page' next' search') := by
  have hheading : (if isSearch search then
        [Piece.fixed "Results for \"", .text (search.getD ""), .fixed "\""]
      else [.fixed "Projects"] : Page).Alike (if isSearch search' then
        [Piece.fixed "Results for \"", .text (search'.getD ""), .fixed "\""]
      else [.fixed "Projects"]) := by
    have hshown : isSearch search = isSearch search' := hsearch
    rw [hshown]
    split
    · exact .cons (.fixed _) (.cons (.text _ _) (.cons (.fixed _) .nil))
    · exact .cons (.fixed _) .nil
  have hcount : (Page.when (!isSearch search)
        [.fixed "<p class=\"muted\">", number page.totalCount, .fixed " projects</p>"]).Alike
      (Page.when (!isSearch search')
        [.fixed "<p class=\"muted\">", number page'.totalCount, .fixed " projects</p>"]) := by
    have hshown : isSearch search = isSearch search' := hsearch
    rw [hshown]
    exact .when (.cons (.fixed _) (.cons (.text _ _) (.cons (.fixed _) .nil))) _
  refine .layout rfl ?_ .nil
  exact alike_lines.append hheading |>.lines
    |>.append (.ifText hsearch fun _ _ => alike_text) |>.lines
    |>.append hcount |>.lines
    |>.append (.forEach_of_map hitems alike_lines fun _ _ _ => alike_projectSection) |>.lines
    |>.append (.ifText hnext fun _ _ => alike_lines.query.lines) |>.lines

/-- The cell of a model shows where its newest version came from. -/
theorem sourceCells_eq (m : ProjectModel) :
    forEach m.versions sourceCell [] = ifText m.latestSource fun s => [.text s] := by
  unfold ProjectModel.latestSource
  cases m.versions with
  | nil => rfl
  | cons v versions =>
    have hrest : (versions.mapIdx fun i => sourceCell (i + 1)).flatten = [] := by
      rw [List.flatten_eq_nil_iff]
      intro cell hcell
      obtain ⟨i, hi, rfl⟩ := List.mem_mapIdx.mp hcell
      rfl
    change ((v :: versions).mapIdx sourceCell).flatten = _
    rw [List.mapIdx_cons, List.flatten_cons, hrest, List.append_nil]
    rfl

theorem alike_modelRow {i j : Nat} (h : rowShape m = rowShape m') :
    (modelRow i m).Alike (modelRow j m') := by
  obtain ⟨hsource, hpreview⟩ := Prod.mk.inj h
  have hcells : (forEach m.versions sourceCell []).Alike (forEach m'.versions sourceCell []) := by
    rw [sourceCells_eq, sourceCells_eq]
    exact .ifText hsource fun _ _ => alike_text
  have himage : ∀ a b x y : String, Alike
      [.fixed "<img src=\"", .text a, .fixed "\" alt=\"", .text x, .fixed "\" width=\"120\">"]
      [.fixed "<img src=\"", .text b, .fixed "\" alt=\"", .text y, .fixed "\" width=\"120\">"] :=
    fun _ _ _ _ => .cons (.fixed _) (.cons (.text _ _) (.cons (.fixed _) (.cons (.text _ _)
      (.cons (.fixed _) .nil))))
  exact alike_lines.text.lines.append hcells |>.lines
    |>.append (.ifText hpreview fun _ _ => himage ..) |>.lines

theorem alike_rulesetItem {i j : Nat} {r r' : Ruleset} :
    (rulesetItem i r).Alike (rulesetItem j r') :=
  alike_lines.append (.cons (.text _ _) (.cons (.fixed _) alike_text)) |>.lines.export.lines

theorem alike_projectDetail {rulesets rulesets' : List Ruleset}
    (hdescription : told p.description = told p'.description)
    (hmodels : p.models.items.map rowShape = p'.models.items.map rowShape)
    (hrulesets : rulesets.length = rulesets'.length) :
    (projectDetail user p rulesets).Alike (projectDetail user' p' rulesets') := by
  refine .layout rfl ?_ .nil
  exact alike_lines.text.lines.append (alike_description hdescription) |>.lines
    |>.append (.forEach_of_map hmodels .nil fun _ _ _ => alike_modelRow)
    |>.lines.query.lines
    |>.append (.forEach hrulesets alike_lines fun _ _ _ => alike_rulesetItem) |>.lines

end Projects

section Rulesets

variable {user user' : User}

theorem alike_rulesetRow {i j : Nat} {r r' : Ruleset} :
    (rulesetRow i r).Alike (rulesetRow j r') :=
  alike_lines.text.lines.append (.cons (.text _ _) (.cons (.fixed _) alike_text))
    |>.lines.text.lines.text.lines.export.lines.text.lines

theorem alike_rulesets {rs rs' : List Ruleset} (h : rs.length = rs'.length) :
    (rulesets user rs).Alike (rulesets user' rs') :=
  .layout rfl
    (alike_lines.append (.forEach h alike_lines fun _ _ _ => alike_rulesetRow) |>.lines) alike_lines

theorem alike_rulesetInputs {name name' description description' : Page}
    {projectId projectId' : String} (hname : name.Alike name')
    (hdescription : description.Alike description') :
    (rulesetInputs name description projectId).Alike
      (rulesetInputs name' description' projectId') :=
  alike_lines.append hname |>.lines.append hdescription |>.lines.text.lines

theorem alike_newRuleset {projectId projectId' : Option String} :
    (newRuleset user projectId).Alike (newRuleset user' projectId') :=
  .layout rfl (alike_lines.text.lines.append (alike_rulesetInputs .nil .nil) |>.lines) alike_lines

theorem alike_ruleRow {i : Nat} {rulesetId rulesetId' : String} {r r' : Rule} :
    (ruleRow rulesetId i r).Alike (ruleRow rulesetId' i r') := by
  have happ : Alike [.fixed "/api/rulesets/", .text rulesetId, .fixed "/rules/", .text r.id]
      [.fixed "/api/rulesets/", .text rulesetId', .fixed "/rules/", .text r'.id] :=
    .cons (.fixed _) (.cons (.text _ _) (.cons (.fixed _) alike_text))
  have hlink : Alike
      [.text rulesetId, .fixed "/rules/", .text r.id, .fixed "/edit\">", .text r.name]
      [.text rulesetId', .fixed "/rules/", .text r'.id, .fixed "/edit\">", .text r'.name] :=
    .cons (.text _ _) (.cons (.fixed _) (.cons (.text _ _) (.cons (.fixed _) alike_text)))
  exact alike_lines.text.lines.append hlink |>.lines.text.lines.text.lines
    |>.append happ |>.lines.append happ |>.lines.append happ |>.lines

theorem alike_editRuleset {ruleset ruleset' : Ruleset} {rules rules' : List Rule}
    (h : rules.length = rules'.length) :
    (editRuleset user ruleset rules).Alike (editRuleset user' ruleset' rules') := by
  refine .layout rfl ?_ alike_lines
  exact alike_lines.text.lines.text.append (alike_rulesetInputs alike_text alike_text)
    |>.lines.export.lines.text.lines
    |>.append (.forEach h alike_lines fun _ _ _ => alike_ruleRow) |>.lines

end Rulesets

section Rules

variable {user user' : User} {rule rule' : Option Rule}

theorem alike_conditionRow {i : Nat} {c c' : ConditionInputs} :
    (conditionRow i c).Alike (conditionRow i c') := by
  have hinput : ∀ (a b : String) (rest : String), Alike
      [number i, .fixed rest, .text a] [number i, .fixed rest, .text b] :=
    fun _ _ _ => .cons (.text _ _) (.cons (.fixed _) alike_text)
  exact alike_lines.append (hinput ..) |>.lines.append (hinput ..) |>.lines.append (hinput ..)
    |>.lines

theorem alike_ofRule (h : rule.isSome = rule'.isSome) (f : Rule → String) :
    (ofRule rule f).Alike (ofRule rule' f) := by
  cases rule <;> cases rule' <;> cases h
  · exact .nil
  · exact alike_text

/-- A form has as many rows as the rule has conditions, but one at least. -/
theorem length_conditionInputs (rule : Option Rule) :
    (conditionInputs rule).length = max 1 ((rule.map (·.conditions.length)).getD 0) := by
  unfold conditionInputs
  cases rule with
  | none => rfl
  | some r =>
    cases hconditions : r.conditions with
    | nil => simp [hconditions]
    | cons c cs => simp [hconditions]

theorem alike_ruleForm {rulesetId rulesetId' : String}
    (h : rule.map (·.conditions.length) = rule'.map (·.conditions.length)) :
    (ruleForm user rulesetId rule).Alike (ruleForm user' rulesetId' rule') := by
  have hsome : rule.isSome = rule'.isSome := by
    simpa using congrArg Option.isSome h
  have hrows : (conditionInputs rule).length = (conditionInputs rule').length := by
    rw [length_conditionInputs, length_conditionInputs, h]
  have hslash : (Page.when rule.isSome [.fixed "/"]).Alike
      (Page.when rule'.isSome [.fixed "/"]) := by
    rw [hsome]
    exact .when (.cons (.fixed _) .nil) _
  refine .layout rfl ?_ alike_lines
  exact alike_lines.text.lines.append (.cons (.text _ _) (.cons (.fixed _) .nil))
    |>.append hslash |>.append (alike_ofRule hsome _) |>.lines
    |>.append (alike_ofRule hsome _) |>.lines.append (alike_ofRule hsome _) |>.lines
    |>.append (.forEach hrows .nil fun _ _ _ => alike_conditionRow) |>.lines
    |>.append (alike_ofRule hsome _) |>.lines.text.lines

end Rules

end Page

/-! ## What may be shown -/

/-- A page together with what it shows. -/
inductive View where
  | login (user : Option User)
  | welcome (user : User)
  | projects (user : User) (page : ProjectPage) (nextCursor search : Option String)
  | projectDetail (user : User) (project : Project) (rulesets : List Ruleset)
  | rulesets (user : User) (rulesets : List Ruleset)
  | newRuleset (user : User) (projectId : Option String)
  | editRuleset (user : User) (ruleset : Ruleset) (rules : List Rule)
  | ruleForm (user : User) (rulesetId : String) (rule : Option Rule)
  | failure (status : Nat) (message : String) (traceId : Option String)

/-- The shape of what a page shows: lengths of lists, and whether a value is there. A text that is
not always shown counts as missing if it is empty. -/
inductive View.Shape where
  | login (signedIn : Bool)
  | welcome
  | projects (sections : List (Bool × List (Nat × Bool))) (next search : Bool)
  | projectDetail (described : Bool) (rows : List (Bool × Bool)) (rulesets : Nat)
  | rulesets (count : Nat)
  | newRuleset
  | editRuleset (rules : Nat)
  | ruleForm (conditions : Option Nat)
  | failure (traced : Bool)
deriving DecidableEq

namespace View

/-- The page that shows something. -/
def page : View → Page
  | login user => Page.login user
  | welcome user => Page.welcome user
  | projects user page nextCursor search => Page.projects user page nextCursor search
  | projectDetail user project attached => Page.projectDetail user project attached
  | rulesets user kept => Page.rulesets user kept
  | newRuleset user projectId => Page.newRuleset user projectId
  | editRuleset user ruleset rules => Page.editRuleset user ruleset rules
  | ruleForm user rulesetId rule => Page.ruleForm user rulesetId rule
  | failure status message traceId => Page.failure status message traceId

/-- The shape of what is shown. -/
def shape : View → Shape
  | login user => .login user.isSome
  | welcome _ => .welcome
  | projects _ page nextCursor search =>
    .projects (page.items.map Page.sectionShape) (Page.told nextCursor) (Page.told search)
  | projectDetail _ project attached =>
    .projectDetail (Page.told project.description) (project.models.items.map Page.rowShape)
      attached.length
  | rulesets _ kept => .rulesets kept.length
  | newRuleset _ _ => .newRuleset
  | editRuleset _ _ rules => .editRuleset rules.length
  | ruleForm _ _ rule => .ruleForm (rule.map (·.conditions.length))
  | failure _ _ traceId => .failure (Page.told traceId)

/-- What has the same shape is shown on pages that are alike. -/
theorem alike {v w : View} (h : v.shape = w.shape) : v.page.Alike w.page := by
  cases v with
  | login user =>
    cases w with
    | login user' => exact Page.alike_login (Shape.login.inj h)
    | _ => cases h
  | welcome user =>
    cases w with
    | welcome user' => exact Page.alike_welcome
    | _ => cases h
  | projects user page next search =>
    cases w with
    | projects user' page' next' search' =>
      obtain ⟨hitems, hnext, hsearch⟩ := Shape.projects.inj h
      exact Page.alike_projects hitems hnext hsearch
    | _ => cases h
  | projectDetail user project attached =>
    cases w with
    | projectDetail user' project' attached' =>
      obtain ⟨hdescription, hmodels, hattached⟩ := Shape.projectDetail.inj h
      exact Page.alike_projectDetail hdescription hmodels hattached
    | _ => cases h
  | rulesets user kept =>
    cases w with
    | rulesets user' kept' => exact Page.alike_rulesets (Shape.rulesets.inj h)
    | _ => cases h
  | newRuleset user projectId =>
    cases w with
    | newRuleset user' projectId' => exact Page.alike_newRuleset
    | _ => cases h
  | editRuleset user ruleset rules =>
    cases w with
    | editRuleset user' ruleset' rules' => exact Page.alike_editRuleset (Shape.editRuleset.inj h)
    | _ => cases h
  | ruleForm user rulesetId rule =>
    cases w with
    | ruleForm user' rulesetId' rule' => exact Page.alike_ruleForm (Shape.ruleForm.inj h)
    | _ => cases h
  | failure status message traceId =>
    cases w with
    | failure status' message' traceId' => exact Page.alike_failure (Shape.failure.inj h)
    | _ => cases h

/-- The fixed text of a page and the places of its holes depend on the shape of what is shown only.
What is shown in an ordinary hole has no markup and is read back as the data, what is shown in a
query is letters, digits and percent signs, and an address that is set in as it is has only letters,
digits, hyphens, underscores and slashes. So the markup of a page depends on the shape only. -/
theorem markup_of_shape :
    (∀ v w : View, v.shape = w.shape →
        v.page.skeleton = w.page.skeleton ∧ v.page.markup = w.page.markup) ∧
      ∀ v : View, v.page.render = String.join (v.page.map Piece.render) ∧
        ∀ piece ∈ v.page, piece.Harmless := by
  have hharmless : ∀ v : View, ∀ piece ∈ v.page, piece.Harmless := fun v => (alike rfl).harmless
  refine ⟨fun v w h => ⟨(alike h).skeleton_eq, ?_⟩, fun v => ⟨rfl, hharmless v⟩⟩
  rw [← Page.markup_skeleton (hharmless v), ← Page.markup_skeleton (hharmless w),
    (alike h).skeleton_eq]

/-- A name made of markup leaves the markup of the page as it is for a plain name. -/
theorem markup_of_hostile_name :
    let ada : User := ⟨⟨"u-1", by decide⟩, "Ada", "ada@example.com", none⟩
    let eve : User := ⟨⟨"u-2", by decide⟩, "\"><script>alert('x')</script>", "", none⟩
    (Page.welcome eve).markup = (Page.welcome ada).markup := by
  intro ada eve
  exact (markup_of_shape.1 (.welcome eve) (.welcome ada) rfl).2

end View

end Rulebook
