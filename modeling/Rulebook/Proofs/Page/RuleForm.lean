import Rulebook.Page.Rules
import Rulebook.Page.Rulesets
import Rulebook.Proofs.Page.Fields
import Rulebook.Rule.Form

/-!
# The fields of the forms

The form of a rule has fields for its name, its description and its message, and one for each part
of each row of inputs, named by the place of the row (`RuleForm.fieldName`). The page carries them
in the order of the rule (`Page.fields_ruleForm`), for any number of conditions and whatever the
texts of the rule hold. The form for a new ruleset has three fields, of which the project is filled
in (`Page.fields_newRuleset`).
-/

namespace Rulebook

namespace RuleForm

/-- The name of the field for a part of the row at a place. -/
def fieldName (place : Nat) (part : Part) : String :=
  "conditions[" ++ String.ofList (Nat.toDigits 10 place) ++ "][" ++ part.name ++ "]"

/-- The fields of the row at a place. -/
def rowFields (place : Nat) (c : Page.ConditionInputs) : List (String × String) :=
  [(fieldName place .propertyName, c.propertyName), (fieldName place .predicate, c.predicate),
    (fieldName place .value, c.value)]

/-- The fields of the form of a rule. -/
def fieldsOf (r : Rule) : List (String × String) :=
  [("name", r.name), ("description", r.description)] ++
    ((Page.conditionInputs (some r)).mapIdx rowFields).flatten ++ [("message", r.message)]

theorem isNameChar_fieldName (place : Nat) (part : Part) :
    (fieldName place part).toList.all Text.Html.isNameChar = true := by
  have hdigits : (Nat.toDigits 10 place).all Text.Html.isNameChar = true := by
    refine List.all_eq_true.mpr fun c hc => ?_
    have hdigit : c.isDigit = true := Nat.isDigit_of_mem_toDigits (by decide) (by decide) hc
    simp [Text.Html.isNameChar, Char.isAlphanum, hdigit]
  have hfixed : ("conditions[".toList.all Text.Html.isNameChar &&
      "][".toList.all Text.Html.isNameChar && part.name.toList.all Text.Html.isNameChar &&
      "]".toList.all Text.Html.isNameChar) = true := by
    cases part <;> decide
  simp only [Bool.and_eq_true] at hfixed
  simp only [fieldName, String.toList_append, String.toList_ofList, List.all_append, hdigits,
    hfixed, Bool.and_self]

end RuleForm

/-- Digits have no references. -/
theorem Text.Html.escape_digits {cs : List Char} (h : ∀ c ∈ cs, c.isDigit) :
    (escape (String.ofList cs)).toList = cs := by
  have hreference : ['&', '<', '>', '"', '\'', '/'].all (fun c => !c.isDigit) = true := by decide
  rw [escape, String.toList_ofList, String.toList_ofList]
  induction cs with
  | nil => rfl
  | cons c cs ih =>
    rw [List.forall_mem_cons] at h
    rw [List.flatMap_cons, ih h.2, escapeChar_of_not_mem, List.singleton_append]
    intro hmem
    simpa [h.1] using List.all_eq_true.mp hreference c hmem

namespace Page

open RuleForm (fieldName rowFields fieldsOf)
open Text.Html (Asks inputTag areaTag inputStart fields)

theorem chars_place (place : Nat) (s : String) :
    chars [number place, .fixed s] = Nat.toDigits 10 place ++ s.toList := by
  rw [chars, List.flatMap_cons, List.flatMap_singleton]
  exact congrArg (· ++ s.toList) (Text.Html.escape_digits fun c =>
    Nat.isDigit_of_mem_toDigits (by decide) (by decide))

/-! ## The rows -/

/-- An input of a row: its name holds the place of the row, and its part stands in fixed text. -/
theorem Reads.cell {p : Page} {s l middle : String} {ls : List String}
    {fs gs : List (String × String)} {tag cs : List Char} {place : Nat} (part : RuleForm.Part)
    (hp : p.Reads fs ('<' :: "input name=\"conditions[".toList))
    (hmiddle : middle = "][" ++ part.name ++ "]\" value=\"")
    (hl : l = String.ofList (['"', '>'] ++ cs)) (hq : (Page.lines (l :: ls)).Reads gs tag) :
    (p ++ [number place, .fixed middle, .text s] ++ Page.lines (l :: ls)).Reads
      (fs ++ (fieldName place part, s) :: gs) tag := by
  have hasks : Asks (inputTag (fieldName place part) " value=".toList) (fieldName place part)
      ['"', '>'] :=
    Text.Html.asks_input (RuleForm.isNameChar_fieldName place part) (by decide) (by decide)
  have hfirst : "input name=\"conditions[".toList =
      inputStart ++ "name=".toList ++ '"' :: "conditions[".toList := by decide
  have hlast : "]\" value=\"".toList = "]".toList ++ '"' :: (" value=".toList ++ ['"']) := by
    decide
  have htag : '<' :: "input name=\"conditions[".toList ++ chars [number place, .fixed middle] =
      '<' :: inputTag (fieldName place part) " value=".toList := by
    rw [chars_place, hmiddle, inputTag, Text.Html.tagOf, fieldName]
    simp only [String.toList_append, String.toList_ofList, hfirst, hlast, List.append_assoc,
      List.cons_append, List.intercalate_cons_cons, List.intercalate_singleton, List.nil_append,
      List.append_nil]
  have hopen := hp.extend [number place, .fixed middle]
  rw [htag] at hopen
  have h := hopen.field (s := s) hasks hl hq
  rwa [List.append_assoc p] at h

theorem reads_conditionRow (place : Nat) (c : ConditionInputs) :
    (conditionRow place c).Reads (rowFields place c) [] := by
  have hlast : (lines ["        <td><input name=\"conditions["]).Reads []
      ('<' :: "input name=\"conditions[".toList) :=
    .opened "        <td>" _ (by decide) (by decide)
  have hstart : (lines ["", "      <tr>", "        <td><input name=\"conditions["]).Reads []
      ('<' :: "input name=\"conditions[".toList) :=
    .line rfl (.line (by decide) hlast)
  have hnext : (lines ["\"></td>", "        <td><input name=\"conditions["]).Reads []
      ('<' :: "input name=\"conditions[".toList) :=
    .line (by decide) hlast
  have hend : (lines ["\"></td>", "      </tr>", "    "]).Reads [] [] :=
    .lines (by decide)
  exact ((hstart.cell .propertyName (by decide) rfl hnext).cell .predicate (by decide) rfl
    hnext).cell .value (by decide) rfl hend

/-! ## The form of a rule -/

theorem asks_name : Asks "input name=\"name\" required value=\"".toList "name" ['"', '>'] := by
  have htag : "input name=\"name\" required value=\"".toList =
      inputTag "name" " required value=".toList := by decide
  exact htag ▸ Text.Html.asks_input (by decide) (by decide) (by decide)

theorem asks_description :
    Asks "textarea name=\"description\">".toList "description" ['<'] := by
  have htag : "textarea name=\"description\">".toList = areaTag "description" ++ ['>'] := by
    decide
  exact htag ▸ Text.Html.asks_area (by decide)

theorem reads_ruleForm (user : User) (rulesetId : String) (r : Rule) :
    (ruleForm user rulesetId (some r)).Reads (fieldsOf r) [] := by
  have hrows : (forEach (conditionInputs (some r)) conditionRow []).Reads
      ((conditionInputs (some r)).mapIdx rowFields).flatten [] :=
    .forEach reads_conditionRow
  have hmessage : Asks "input name=\"message\" value=\"".toList "message" ['"', '>'] := by
    have htag : "input name=\"message\" value=\"".toList = inputTag "message" " value=".toList := by
      decide
    exact htag ▸ Text.Html.asks_input (by decide) (by decide) (by decide)
  have hid : (ofRule (some r) (·.id)).Reads [] [] := .text r.id
  refine Reads.layout _ _ ?body ?script
  case body =>
    change Reads _ ([] ++ [("name", r.name)] ++ [("description", r.description)] ++
      ((conditionInputs (some r)).mapIdx rowFields).flatten ++ [("message", r.message)]) []
    refine .before (.before (.field (.before (.append ?upper hrows) ?_) hmessage rfl (.lines ?_))
      (.text rulesetId)) (.lines ?_)
    case upper =>
      refine .field (.field (.behind (.before ?_ hid) ?_) asks_name rfl ?_) asks_description rfl
        (.lines ?_)
      · have haction : Reads [.text rulesetId, .fixed "/rules"] [] [] :=
          .cons (.text rulesetId) (.fixed (by decide))
        refine .before (.before (.before (.before (.lines ?_) (.text _)) (.lines ?_)) haction)
          (.fixed ?_)
        all_goals decide
      · refine .line ?_ (.opened "  <p><label>Name " _ ?_ ?_)
        all_goals decide
      · refine .line ?_ (.opened "  <p><label>Description " _ ?_ ?_)
        all_goals decide
      · decide
    · iterate 3 refine .line (by decide) ?_
      exact .opened "  <p><label>Message " _ (by decide) (by decide)
    all_goals decide
  case script =>
    refine .lines ?_
    repeat refine quiet_cons rfl (by decide) ?_
    exact nofun

/-- The form of a rule carries the rule, with what is shown of the values of its conditions. -/
theorem fields_ruleForm (user : User) (rulesetId : String) (r : Rule) :
    fields (ruleForm user rulesetId (some r)).render = fieldsOf r :=
  (reads_ruleForm user rulesetId r).fields_render

/-! ## The form of a ruleset -/

/-- The fields of the form of a ruleset. -/
def rulesetFields (name description projectId : String) : List (String × String) :=
  [("name", name), ("description", description), ("projectId", projectId)]

theorem reads_rulesetInputs (name description projectId : String) :
    (rulesetInputs [.text name] [.text description] projectId).Reads
      (rulesetFields name description projectId) [] := by
  have hproject : Asks "input name=\"projectId\" value=\"".toList "projectId" ['"', '>'] := by
    have htag : "input name=\"projectId\" value=\"".toList =
        inputTag "projectId" " value=".toList := by decide
    exact htag ▸ Text.Html.asks_input (by decide) (by decide) (by decide)
  change Reads _ ([] ++ [("name", name)] ++ [("description", description)] ++
    [("projectId", projectId)]) []
  refine .field (.field (.field ?_ asks_name rfl ?_) asks_description rfl ?_) hproject rfl
    (.lines ?_)
  · exact .line (by decide) (.opened "  <p><label>Name " _ (by decide) (by decide))
  · exact .line (by decide) (.opened "  <p><label>Description " _ (by decide) (by decide))
  · exact .line (by decide) (.opened "  <p><label>Project id " _ (by decide) (by decide))
  · decide

/-- A form without a name and a description reads like one with empty ones. -/
theorem chars_rulesetInputs_nil (projectId : String) :
    (rulesetInputs [] [] projectId).chars =
      (rulesetInputs [.text ""] [.text ""] projectId).chars := by
  have hnil : chars [.text ""] = chars [] := rfl
  simp only [rulesetInputs, chars_append, hnil]

theorem reads_newRuleset (user : User) (projectId : Option String) :
    (newRuleset user projectId).Reads (rulesetFields "" "" (projectId.getD "")) [] := by
  have hinputs : (rulesetInputs [] [] (projectId.getD "")).Reads
      (rulesetFields "" "" (projectId.getD "")) [] := by
    intro rest
    rw [chars_rulesetInputs_nil]
    exact reads_rulesetInputs "" "" _ rest
  refine .layout _ _ (.before (.behind (.before (.before (.lines ?_) (.text _)) (.lines ?_))
    hinputs) (.lines ?_)) (.lines ?_)
  · decide
  · decide
  · decide
  · repeat refine quiet_cons rfl (by decide) ?_
    exact nofun

/-- The form for a new ruleset carries the project it is opened with. -/
theorem fields_newRuleset (user : User) (projectId : Option String) :
    fields (newRuleset user projectId).render = rulesetFields "" "" (projectId.getD "") :=
  (reads_newRuleset user projectId).fields_render

end Page

end Rulebook
