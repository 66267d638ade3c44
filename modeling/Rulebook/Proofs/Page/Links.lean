import Rulebook.Page.Projects
import Rulebook.Proofs.Page.Fields

/-!
# The links on a page

Where a page leads is read off its text by going through it once: behind `<a href="` an address
begins, and a quote ends it (`Html.addresses`). What fills a hole cannot begin an address, nor end
one it stands in, so a page is gone through piece by piece (`Page.Leads`). The links of the list of
projects and of the page of a project follow (`Page.addresses_projects`,
`Page.addresses_projectDetail`): those of the bar, then those of the page, with the data in them
unharmed. Among them stand the link to the next page, if there is one (`Page.nextLinks_projects`),
and the link to the form for a new ruleset (`Page.newRulesetLink?_projectDetail`).
-/

namespace Rulebook

namespace Text.Html

/-! ## The reader -/

/-- What begins an address. -/
def addressStart : List Char :=
  ['<', 'a', ' ', 'h', 'r', 'e', 'f', '=', '"']

/-- Where a reader of addresses stands: outside, with so many characters of the beginning of an
address behind it, or inside an address, with what it has read of it. -/
inductive Position where
  | outside (seen : Nat)
  | inside (address : List Char)
deriving DecidableEq, Repr

/-- The position behind one more character. -/
def Position.advance : Position → Char → Position
  | .outside seen, c =>
    if addressStart[seen]? = some c then
      if seen + 1 = addressStart.length then .inside [] else .outside (seen + 1)
    else if c = '<' then .outside 1
    else .outside 0
  | .inside address, c => if c = '"' then .outside 0 else .inside (address ++ [c])

/-- The address that a character ends, if it ends one. -/
def Position.ended : Position → Char → List String
  | .inside address, '"' => [String.ofList (unescapeChars address)]
  | _, _ => []

/-- The addresses that end in `cs`, and the position behind it. -/
def readFrom : Position → List Char → List String × Position
  | position, [] => ([], position)
  | position, c :: cs =>
    let (found, behind) := readFrom (position.advance c) cs
    (position.ended c ++ found, behind)

/-- The addresses in a text, in the order they stand in. -/
def addresses (text : String) : List String :=
  (readFrom (.outside 0) text.toList).1

/-! ## Parts of a text -/

variable {cs ds : List Char} {a b c : Position} {fs gs : List String} {s : String}

theorem readFrom_append (h : readFrom a cs = (fs, b)) (h' : readFrom b ds = (gs, c)) :
    readFrom a (cs ++ ds) = (fs ++ gs, c) := by
  induction cs generalizing a fs with
  | nil =>
    cases h
    exact h'
  | cons d cs ih =>
    rw [readFrom] at h
    obtain ⟨rfl, hb⟩ := Prod.mk.inj h
    rw [List.cons_append, readFrom, ih (Prod.ext rfl hb), List.append_assoc]

/-- No address begins without a `<`. -/
theorem readFrom_outside (h : '<' ∉ cs) : readFrom (.outside 0) cs = ([], .outside 0) := by
  induction cs with
  | nil => rfl
  | cons c cs ih =>
    rw [List.mem_cons, not_or] at h
    have hstay : (Position.outside 0).advance c = .outside 0 := by
      rw [Position.advance, if_neg (show addressStart[0]? ≠ some c from fun heq =>
        h.1 (Option.some.inj heq)), if_neg (Ne.symm h.1)]
    rw [readFrom, hstay, ih h.2]
    rfl

theorem Position.ended_inside {c : Char} (h : c ≠ '"') (address : List Char) :
    (inside address).ended c = [] := by
  rw [ended]
  exact fun _ _ hc => h hc

/-- No address ends without a quote. -/
theorem readFrom_inside (h : '"' ∉ cs) (address : List Char) :
    readFrom (.inside address) cs = ([], .inside (address ++ cs)) := by
  induction cs generalizing address with
  | nil => rw [List.append_nil]; rfl
  | cons c cs ih =>
    rw [List.mem_cons, not_or] at h
    rw [readFrom, Position.advance, if_neg (Ne.symm h.1), ih h.2,
      Position.ended_inside (Ne.symm h.1), List.append_assoc]
    rfl

/-- A quote ends the address. -/
theorem readFrom_quote (address : List Char) :
    readFrom (.inside address) ['"'] =
      ([String.ofList (unescapeChars address)], .outside 0) :=
  rfl

theorem unescapeChars_append (h : '&' ∉ cs) (rest : List Char) :
    unescapeChars (cs ++ rest) = cs ++ unescapeChars rest := by
  induction cs with
  | nil => rfl
  | cons c cs ih =>
    rw [List.mem_cons, not_or] at h
    rw [List.cons_append, unescapeChars_cons (Ne.symm h.1), ih h.2, List.cons_append]

/-- A text without ampersands has no references. -/
theorem unescape_of_not_mem (h : '&' ∉ s.toList) : unescape s = s := by
  rw [unescape, ← List.append_nil s.toList, unescapeChars_append h, unescapeChars,
    List.append_nil, String.ofList_toList]

/-- An escaped text is read back in the middle of plain text. -/
theorem unescape_around {start ending : String} (hstart : '&' ∉ start.toList)
    (hending : '&' ∉ ending.toList) (s : String) :
    unescape (start ++ escape s ++ ending) = start ++ s ++ ending := by
  have hend := unescape_of_not_mem hending
  rw [unescape] at hend
  rw [unescape, String.toList_append, String.toList_append, List.append_assoc,
    unescapeChars_append hstart, escape, String.toList_ofList,
    unescapes_unescapeChars.escape_append, String.ofList_append, String.ofList_append, hend,
    String.ofList_toList, String.ofList_toList, String.append_assoc]

/-- No address begins in `cs`, and none is about to at its end. -/
def linkless (cs : List Char) : Bool :=
  readFrom (.outside 0) cs = ([], .outside 0)

theorem readFrom_close (hcs : '"' ∉ cs) (hds : linkless ds = true) (address : List Char) :
    readFrom (.inside address) (cs ++ '"' :: ds) =
      ([String.ofList (unescapeChars (address ++ cs))], .outside 0) :=
  readFrom_append (readFrom_inside hcs address)
    (readFrom_append (readFrom_quote _) (of_decide_eq_true hds))

end Text.Html

namespace Page

open Text.Html (Position addresses readFrom linkless escape unescape)

/-! ## Going through a page -/

/-- The addresses that are read on a page from one position to another. -/
def Leads (p : Page) (start : Position) (found : List String) (stop : Position) : Prop :=
  readFrom start p.chars = (found, stop)

-- as in `quiet_cons`, `rfl` finds the characters of a line
theorem linkless_cons {l : String} {ls : List String} {cs : List Char} (hl : l = String.ofList cs)
    (h : linkless cs = true) (hls : ∀ m ∈ ls, linkless m.toList = true) :
    ∀ m ∈ l :: ls, linkless m.toList = true :=
  List.forall_mem_cons.mpr ⟨by rwa [hl, String.toList_ofList], hls⟩

namespace Leads

variable {p q body script otherwise : Page} {a b c : Position} {fs gs : List String}
  {s l m address link : String} {ls : List String} {cs : List Char}

theorem addresses_render (h : p.Leads (.outside 0) fs a) : addresses p.render = fs := by
  rw [addresses, toList_render, show readFrom _ p.chars = _ from h]

theorem nil : Leads [] a [] a :=
  rfl

theorem append (hp : p.Leads a fs b) (hq : q.Leads b gs c) : (p ++ q).Leads a (fs ++ gs) c := by
  rw [Leads, chars_append]
  exact Text.Html.readFrom_append hp hq

theorem behind (hp : p.Leads a [] b) (hq : q.Leads b fs c) : (p ++ q).Leads a fs c :=
  hp.append hq

theorem before (hp : p.Leads a fs b) (hq : q.Leads b [] c) : (p ++ q).Leads a fs c :=
  List.append_nil fs ▸ hp.append hq

theorem cons {piece : Piece} (h : Leads [piece] a [] b) (hp : p.Leads b fs c) :
    Leads (piece :: p) a fs c :=
  h.behind hp

theorem when (h : p.Leads a [] a) (shown : Bool) : (when shown p).Leads a [] a := by
  cases shown
  · exact nil
  · exact h

theorem ifText {part : String → Page} (h : ∀ s, (part s).Leads a [] a) (s : Option String) :
    (ifText s part).Leads a [] a := by
  cases s with
  | none => exact nil
  | some s => exact (h s).when _

/-! ### Holes -/

theorem text (s : String) : Leads [.text s] (.outside 0) [] (.outside 0) := by
  rw [Leads, chars_text]
  exact Text.Html.readFrom_outside fun h => absurd (Text.Html.isMarkup_of_mem_escape h) (by decide)

/-- A hole in an address, filled with something that has no quote. -/
theorem hole {piece : Piece} (h : '"' ∉ piece.render.toList) :
    Leads [piece] (.inside address.toList) [] (.inside (address ++ piece.render).toList) := by
  rw [Leads, chars, List.flatMap_singleton, String.toList_append]
  exact Text.Html.readFrom_inside h address.toList

theorem hole_text (s : String) : Leads [.text s] (.inside address.toList) []
    (.inside (address ++ Text.Html.escape s).toList) :=
  hole fun h => absurd (Text.Html.isMarkup_of_mem_escape h) (by decide)

theorem hole_query (s : String) : Leads [.query s] (.inside address.toList) []
    (.inside (address ++ Text.Percent.encodeStrict s).toList) :=
  hole fun h => absurd (Text.Percent.isStrict_of_mem_encodeStrict h) (by decide)

theorem hole_address (r : Ruleset) : Leads [.address (Export.url r)] (.inside address.toList) []
    (.inside (address ++ Export.url r).toList) :=
  hole fun h => absurd (Export.isAddress_of_mem_url h) (by decide)

/-! ### Fixed text -/

theorem fixed (hl : l = String.ofList cs) (h : readFrom a cs = (fs, b)) :
    Leads [.fixed l] a fs b := by
  rw [Leads, chars, List.flatMap_singleton, Piece.render, hl, String.toList_ofList, h]

theorem last (hl : l = String.ofList cs) (h : readFrom a cs = (fs, b)) :
    (lines [l]).Leads a fs b := by
  rw [Leads, chars_lines_singleton, hl, String.toList_ofList, h]

/-- A line that ends outside an address, and what comes behind it. -/
theorem line (fs : List String) (hl : l = String.ofList cs)
    (h : readFrom a cs = (fs, .outside 0))
    (hrest : (Page.lines (m :: ls)).Leads (.outside 0) gs b) :
    (Page.lines (l :: m :: ls)).Leads a (fs ++ gs) b := by
  rw [Leads, chars_lines_cons, hl, String.toList_ofList]
  exact Text.Html.readFrom_append h hrest

theorem plain (hl : l = String.ofList cs) (h : linkless cs = true)
    (hrest : (Page.lines (m :: ls)).Leads (.outside 0) fs b) :
    (Page.lines (l :: m :: ls)).Leads (.outside 0) fs b :=
  line [] hl (of_decide_eq_true h) hrest

theorem lines (h : ∀ l ∈ ls, linkless l.toList = true) :
    (Page.lines ls).Leads (.outside 0) [] (.outside 0) := by
  induction ls with
  | nil => rfl
  | cons l ls ih =>
    rw [List.forall_mem_cons] at h
    have hl : l = String.ofList l.toList := String.ofList_toList.symm
    cases ls with
    | nil => exact last hl (of_decide_eq_true h.1)
    | cons m ls => exact plain hl h.1 (ih h.2)

/-- A line behind an address ends it. -/
theorem closing (hlink : unescape address = link) (hl : l = String.ofList ('"' :: cs))
    (h : linkless cs = true) (hrest : (Page.lines (m :: ls)).Leads (.outside 0) fs b) :
    (Page.lines (l :: m :: ls)).Leads (.inside address.toList) (link :: fs) b := by
  have hclose := Text.Html.readFrom_close (List.not_mem_nil (a := '"')) h address.toList
  rw [List.append_nil, ← unescape, hlink] at hclose
  exact line [link] hl hclose hrest

/-- The end of an address and the quote behind it in one piece. -/
theorem closing_fixed (cs : List Char) {ending : String}
    (hlink : unescape (address ++ ending) = link)
    (hs : s = String.ofList (ending.toList ++ '"' :: cs)) (hending : '"' ∉ ending.toList)
    (h : linkless cs = true) :
    Leads [.fixed s] (.inside address.toList) [link] (.outside 0) := by
  rw [← hlink, unescape, String.toList_append]
  exact fixed hs (Text.Html.readFrom_close hending h address.toList)

/-- A link with a text percent-encoded at the end of its address. -/
theorem query (start : String) (hstart : '&' ∉ start.toList)
    (hp : p.Leads a [] (.inside start.toList)) (hl : l = String.ofList ('"' :: cs))
    (h : linkless cs = true) (hls : ∀ k ∈ m :: ls, linkless k.toList = true) (s : String) :
    (p ++ [Piece.query s] ++ Page.lines (l :: m :: ls)).Leads a
      [start ++ Text.Percent.encodeStrict s] (.outside 0) := by
  have hlink : unescape (start ++ Text.Percent.encodeStrict s) =
      start ++ Text.Percent.encodeStrict s := by
    refine Text.Html.unescape_of_not_mem ?_
    rw [String.toList_append, List.mem_append, not_or]
    exact ⟨hstart, fun hmem =>
      absurd (Text.Percent.isStrict_of_mem_encodeStrict hmem) (by decide)⟩
  exact (hp.behind (hole_query s)).behind (closing hlink hl h (lines hls))

/-! ### Parts for items, and the frame -/

theorem flatten_mapIdx {α : Type} {items : List α} {part : Nat → α → Page}
    {found : α → List String} (h : ∀ i x, (part i x).Leads a (found x) a) :
    Leads (items.mapIdx part).flatten a (items.flatMap found) a := by
  induction items generalizing part with
  | nil => exact nil
  | cons x items ih =>
    rw [List.mapIdx_cons, List.flatten_cons, List.flatMap_cons]
    exact (h 0 x).append (ih fun i => h (i + 1))

/-- The links of a part for each item follow each other. -/
theorem forEach {α : Type} {items : List α} {part : Nat → α → Page} {found : α → List String}
    (h : ∀ i x, (part i x).Leads a (found x) a) (hnone : otherwise.Leads a [] a) :
    (forEach items part otherwise).Leads a (items.flatMap found) a := by
  cases items with
  | nil => exact hnone
  | cons x items => exact flatten_mapIdx h

/-- Parts without links. -/
theorem forEach_nil {α : Type} {items : List α} {part : Nat → α → Page}
    (h : ∀ i x, (part i x).Leads a [] a) (hnone : otherwise.Leads a [] a) :
    (Page.forEach items part otherwise).Leads a [] a := by
  have hall : (Page.forEach items part otherwise).Leads a (items.flatMap fun _ => []) a :=
    forEach h hnone
  rwa [List.flatMap_eq_nil_iff.mpr fun _ _ => rfl] at hall

end Leads

/-- The links of the bar. -/
def barLinks : List String :=
  ["/", "/projects", "/rulesets", "/logout"]

/-- The links of a page for a user are those of the bar and those of its body. -/
theorem Leads.layout {body : Page} {fs : List String} (title : String) (user : User)
    (h : body.Leads (.outside 0) fs (.outside 0)) :
    (layout title (some user) body []).Leads (.outside 0) (barLinks ++ fs) (.outside 0) := by
  have hhead : beforeTitle.Leads (.outside 0) [] (.outside 0) := by
    refine .lines ?_
    repeat refine linkless_cons rfl (by decide) ?_
    exact nofun
  have hbar : afterTitle.Leads (.outside 0) ["/"] (.outside 0) := by
    iterate 3 refine .plain rfl (by decide) ?_
    refine .plain String.ofList_append.symm (by decide) ?_
    iterate 10 refine .plain rfl (by decide) ?_
    exact .line ["/"] rfl (by decide) (.lines (by decide))
  have hlinks : (links user).Leads (.outside 0) ["/projects", "/rulesets", "/logout"]
      (.outside 0) := by
    have hupper : (Page.lines ["", "        <a href=\"/projects\">Projects</a>",
        "        <a href=\"/rulesets\">Rulesets</a>", "        <span>"]).Leads (.outside 0)
        ["/projects", "/rulesets"] (.outside 0) := by
      refine .plain rfl (by decide) (.line ["/projects"] rfl (by decide) ?_)
      exact .line ["/rulesets"] rfl (by decide) (.lines (by decide))
    refine (hupper.before (.text user.name)).append (.plain rfl (by decide) ?_)
    exact .line ["/logout"] rfl (by decide) (.lines (by decide))
  have htop := ((hhead.before (.text title)).append hbar).append hlinks
  refine .before (.before (.before (.append (.before htop (.lines ?_)) h) (.lines ?_)) .nil)
    (.lines ?_)
  all_goals
    repeat refine linkless_cons rfl (by decide) ?_
    exact nofun

/-! ## The list of projects -/

theorem leads_versionLine (i : Nat) (v : ModelVersion) :
    (versionLine i v).Leads (.outside 0) [] (.outside 0) := by
  have hsource (s : String) :
      Leads [.fixed "<span class=\"muted\">(", .text s, .fixed ")</span>"] (.outside 0) []
        (.outside 0) :=
    .cons (.fixed rfl (by decide)) (.cons (.text s) (.fixed rfl (by decide)))
  exact .before (.before (.lines (by decide)) ((Leads.ifText hsource _).when _))
    (.lines (by decide))

theorem leads_description (s : Option String) :
    (description s).Leads (.outside 0) [] (.outside 0) :=
  .ifText (fun s => .cons (.fixed rfl (by decide)) (.cons (.text s) (.fixed rfl (by decide)))) s

theorem leads_modelLine (i : Nat) (m : ProjectModel) :
    (modelLine i m).Leads (.outside 0) [] (.outside 0) := by
  refine .before (.before (.before (.before (.lines ?_) (.text m.name)) (.lines ?_))
    (.forEach_nil leads_versionLine .nil)) (.lines ?_)
  all_goals decide

/-- The address of a project on the list. -/
def projectAddress (p : Project) : String :=
  "/projects/" ++ p.id

theorem leads_projectSection (i : Nat) (p : Project) :
    (projectSection i p).Leads (.outside 0) [projectAddress p] (.outside 0) := by
  have haddress : unescape ("/projects/" ++ escape p.id ++ "") = projectAddress p := by
    rw [Text.Html.unescape_around (by decide) (by decide), String.append_empty]
    rfl
  have hopen : (lines ["", "  <section>", "    <h2><a href=\"/projects/"]).Leads (.outside 0) []
      (.inside "/projects/".toList) :=
    .plain rfl (by decide) (.plain rfl (by decide) (.last rfl (by decide)))
  have hclose : Leads [.fixed "\">"] (.inside ("/projects/" ++ escape p.id).toList)
      [projectAddress p] (.outside 0) :=
    .closing_fixed ['>'] haddress (by decide) (by decide) (by decide)
  have hlink : Leads [.text p.id, .fixed "\">", .text p.name] (.inside "/projects/".toList)
      [projectAddress p] (.outside 0) :=
    .cons (.hole_text p.id) (hclose.before (.text p.name))
  have hmodels : (forEach p.models.items modelLine []).Leads (.outside 0) [] (.outside 0) :=
    .forEach_nil leads_modelLine .nil
  refine .before (.before (.before (.before (.before (.behind hopen hlink) (.lines ?_))
    (leads_description _)) (.lines ?_)) hmodels) (.lines ?_)
  all_goals decide

/-- The address of the list of projects behind a cursor. -/
def cursorAddress (cursor : String) : String :=
  "/projects?cursor=" ++ Text.Percent.encodeStrict cursor

theorem leads_next (c : String) :
    (lines ["", "  <p><a href=\"/projects?cursor="] ++ [Piece.query c] ++
      lines ["\">Next page</a></p>", ""]).Leads (.outside 0) [cursorAddress c] (.outside 0) := by
  have hopen : (lines ["", "  <p><a href=\"/projects?cursor="]).Leads (.outside 0) []
      (.inside "/projects?cursor=".toList) :=
    .plain rfl (by decide) (.last rfl (by decide))
  exact hopen.query "/projects?cursor=" (by decide) rfl (by decide) (by decide) c

theorem leads_projects (user : User) (page : ProjectPage) (next search : Option String) :
    (projects user page next search).Leads (.outside 0)
      (barLinks ++ (page.items.map projectAddress ++
        ((next.filter (· ≠ "")).map cursorAddress).toList)) (.outside 0) := by
  have hheading : (if isSearch search then
        [Piece.fixed "Results for \"", .text (search.getD ""), .fixed "\""]
      else [.fixed "Projects"] : Page).Leads (.outside 0) [] (.outside 0) := by
    split
    · exact .cons (.fixed rfl (by decide)) (.cons (.text _) (.fixed rfl (by decide)))
    · exact .fixed rfl (by decide)
  have hcount : (Page.when (!isSearch search)
      [.fixed "<p class=\"muted\">", number page.totalCount, .fixed " projects</p>"]).Leads
        (.outside 0) [] (.outside 0) :=
    .when (.cons (.fixed rfl (by decide)) (.cons (.text _) (.fixed rfl (by decide)))) _
  have hitems : (Page.forEach page.items projectSection
      (lines ["", "  <p>No projects found.</p>", ""])).Leads (.outside 0)
        (page.items.map projectAddress) (.outside 0) := by
    rw [List.map_eq_flatMap]
    exact .forEach leads_projectSection (.lines (by decide))
  have hnext : (Page.ifText next fun c =>
      lines ["", "  <p><a href=\"/projects?cursor="] ++ [.query c] ++
        lines ["\">Next page</a></p>", ""]).Leads (.outside 0)
        ((next.filter (· ≠ "")).map cursorAddress).toList (.outside 0) := by
    cases next with
    | none => exact .nil
    | some c =>
      by_cases hc : c = ""
      · subst hc
        exact .nil
      · have hshown : decide (c ≠ "") = true := decide_eq_true hc
        have hkept : (some c).filter (· ≠ "") = some c := if_pos hshown
        rw [Page.ifText, Page.when, if_pos hshown, hkept]
        exact leads_next c
  refine .layout _ user ?_
  refine .before (.append (.before (.behind (.before (.before (.before (.before (.before (.before
    (.lines ?_) hheading) (.lines ?_)) (.ifText .text _)) (.lines ?_)) hcount) (.lines ?_)) hitems)
    (.lines ?_)) hnext) (.lines ?_)
  all_goals
    repeat refine linkless_cons rfl (by decide) ?_
    exact nofun

/-- The links of the list of projects: those of the bar, one for each project, and the next page, if
there is a cursor for it. -/
theorem addresses_projects (user : User) (page : ProjectPage) (next search : Option String) :
    addresses (projects user page next search).render =
      barLinks ++ (page.items.map projectAddress ++
        ((next.filter (· ≠ "")).map cursorAddress).toList) :=
  (leads_projects user page next search).addresses_render

/-- An address with a prefix that tells what it leads to. -/
def leadsTo (start address : String) : Bool :=
  start.toList.isPrefixOf address.toList

theorem leadsTo_append (start rest : String) : leadsTo start (start ++ rest) = true := by
  rw [leadsTo, String.toList_append, List.isPrefixOf_iff_prefix]
  exact List.prefix_append _ _

/-- The links on a page that lead further along the list of projects. -/
def nextLinks (text : String) : List String :=
  (addresses text).filter (leadsTo "/projects?cursor=")

theorem not_leadsTo_projectAddress (p : Project) :
    leadsTo "/projects?cursor=" (projectAddress p) = false := by
  have hstart : "/projects?cursor=".toList = "/projects".toList ++ '?' :: "cursor=".toList := by
    decide
  have haddress : (projectAddress p).toList = "/projects".toList ++ '/' :: p.id.toList := by
    rw [projectAddress, String.toList_append]
    rfl
  rw [leadsTo, ← Bool.not_eq_true, List.isPrefixOf_iff_prefix, hstart, haddress,
    List.prefix_append_right_inj, List.cons_prefix_cons]
  exact fun h => absurd h.1 (by decide)

/-- The list of projects leads further along the list if there is a cursor for the next page. -/
theorem nextLinks_projects (user : User) (page : ProjectPage) (next search : Option String) :
    nextLinks (projects user page next search).render =
      ((next.filter (· ≠ "")).map cursorAddress).toList := by
  have hbar : barLinks.filter (leadsTo "/projects?cursor=") = [] := by decide
  have hitems : (page.items.map projectAddress).filter (leadsTo "/projects?cursor=") = [] := by
    rw [List.filter_eq_nil_iff, List.forall_mem_map]
    exact fun p _ => Bool.eq_false_iff.mp (not_leadsTo_projectAddress p)
  have hnext : ((next.filter (· ≠ "")).map cursorAddress).toList.filter
      (leadsTo "/projects?cursor=") = ((next.filter (· ≠ "")).map cursorAddress).toList := by
    rw [List.filter_eq_self]
    intro link hlink
    obtain ⟨c, -, rfl⟩ := Option.map_eq_some_iff.mp (Option.mem_toList.mp hlink)
    exact leadsTo_append _ _
  rw [nextLinks, addresses_projects, List.filter_append, List.filter_append, hbar, hitems, hnext]
  rfl

/-! ## The page of a project -/

theorem leads_modelRow (i : Nat) (m : ProjectModel) :
    (modelRow i m).Leads (.outside 0) [] (.outside 0) := by
  have hcells : (Page.forEach m.versions sourceCell []).Leads (.outside 0) [] (.outside 0) :=
    .forEach_nil (fun _ _ => (Leads.ifText .text _).when _) .nil
  have himage (url : String) : Leads [.fixed "<img src=\"", .text url, .fixed "\" alt=\"",
      .text m.name, .fixed "\" width=\"120\">"] (.outside 0) [] (.outside 0) :=
    .cons (.fixed rfl (by decide)) (.cons (.text url) (.cons
      (.fixed rfl (by decide)) (.cons (.text m.name) (.fixed rfl (by decide)))))
  refine .before (.before (.before (.before (.before (.before (.lines ?_) (.text m.name))
    (.lines ?_)) hcells) (.lines ?_)) (.ifText himage _)) (.lines ?_)
  all_goals decide

/-- The addresses of a ruleset on the page of its project: the form for it, and its export. -/
def rulesetAddresses (r : Ruleset) : List String :=
  ["/rulesets/" ++ r.id ++ "/edit", Export.url r]

theorem leads_rulesetItem (i : Nat) (r : Ruleset) :
    (rulesetItem i r).Leads (.outside 0) (rulesetAddresses r) (.outside 0) := by
  have hform : unescape ("/rulesets/" ++ escape r.id ++ "/edit") =
      "/rulesets/" ++ r.id ++ "/edit" :=
    Text.Html.unescape_around (by decide) (by decide) r.id
  have hexport : unescape (Export.url r) = Export.url r :=
    Text.Html.unescape_of_not_mem fun h => absurd (Export.isAddress_of_mem_url h) (by decide)
  have hopen : (lines ["", "    <li>", "      <a href=\"/rulesets/"]).Leads (.outside 0) []
      (.inside "/rulesets/".toList) :=
    .plain rfl (by decide) (.plain rfl (by decide) (.last rfl (by decide)))
  have hclose : Leads [.fixed "/edit\">"] (.inside ("/rulesets/" ++ escape r.id).toList)
      ["/rulesets/" ++ r.id ++ "/edit"] (.outside 0) :=
    .closing_fixed ['>'] hform (by decide) (by decide) (by decide)
  have hedit : Leads [.text r.id, .fixed "/edit\">", .text r.name] (.inside "/rulesets/".toList)
      ["/rulesets/" ++ r.id ++ "/edit"] (.outside 0) :=
    .cons (.hole_text r.id) (hclose.before (.text r.name))
  have hreopen : (lines ["</a>", "      <a href=\""]).Leads (.outside 0) [] (.inside "".toList) :=
    .plain rfl (by decide) (.last rfl (by decide))
  have hhole : Leads [.address (Export.url r)] (.inside "".toList) []
      (.inside ("" ++ Export.url r).toList) :=
    .hole_address r
  rw [String.empty_append] at hhole
  have hend : (lines ["\">TSV</a>", "    </li>", "  "]).Leads (.inside (Export.url r).toList)
      [Export.url r] (.outside 0) :=
    .closing hexport rfl (by decide) (.lines (by decide))
  exact (((hopen.behind hedit).before hreopen).before hhole).append hend

/-- The address of the form for a new ruleset of a project. -/
def newRulesetAddress (projectId : String) : String :=
  "/rulesets/new?project_id=" ++ Text.Percent.encodeStrict projectId

theorem leads_projectDetail (user : User) (project : Project) (rulesets : List Ruleset) :
    (projectDetail user project rulesets).Leads (.outside 0)
      (barLinks ++ newRulesetAddress project.id :: rulesets.flatMap rulesetAddresses)
      (.outside 0) := by
  have hmodels : (Page.forEach project.models.items modelRow []).Leads (.outside 0) []
      (.outside 0) :=
    .forEach_nil leads_modelRow .nil
  have hopen : (lines ["", "</table>", "<h2>Rulesets</h2>",
      "<p><a href=\"/rulesets/new?project_id="]).Leads (.outside 0) []
        (.inside "/rulesets/new?project_id=".toList) := by
    iterate 3 refine .plain rfl (by decide) ?_
    exact .last rfl (by decide)
  have hitems : (Page.forEach rulesets rulesetItem
      (lines ["", "    <li class=\"muted\">No rulesets yet.</li>", "  "])).Leads (.outside 0)
        (rulesets.flatMap rulesetAddresses) (.outside 0) :=
    .forEach leads_rulesetItem (.lines (by decide))
  refine .layout _ user (.before (.append (.query "/rulesets/new?project_id=" (by decide)
    (.behind ?upper hopen) rfl ?_ ?_ project.id) hitems) (.lines ?_))
  case upper =>
    refine .before (.before (.before (.before (.before (.lines ?_) (.text project.name))
      (.lines ?_)) (leads_description _)) (.lines ?_)) hmodels
    all_goals decide
  all_goals decide

/-- The links of the page of a project: those of the bar, the form for a new ruleset, and two for
each of its rulesets. -/
theorem addresses_projectDetail (user : User) (project : Project) (rulesets : List Ruleset) :
    addresses (projectDetail user project rulesets).render =
      barLinks ++ newRulesetAddress project.id :: rulesets.flatMap rulesetAddresses :=
  (leads_projectDetail user project rulesets).addresses_render

/-- The first link on a page that leads to the form for a new ruleset of a project. -/
def newRulesetLink? (text : String) : Option String :=
  (addresses text).find? (leadsTo "/rulesets/new?project_id=")

/-- The page of a project leads to the form for a new ruleset of this project. -/
theorem newRulesetLink?_projectDetail (user : User) (project : Project)
    (rulesets : List Ruleset) :
    newRulesetLink? (projectDetail user project rulesets).render =
      some (newRulesetAddress project.id) := by
  have hbar : barLinks.find? (leadsTo "/rulesets/new?project_id=") = none := by decide
  rw [newRulesetLink?, addresses_projectDetail, List.find?_append, hbar, Option.none_or]
  exact List.find?_cons_of_pos (leadsTo_append _ _)

end Page

end Rulebook
