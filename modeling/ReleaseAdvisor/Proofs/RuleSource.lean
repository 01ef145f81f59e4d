import Mathlib
import ReleaseAdvisor.Proofs.Json.Layout
import ReleaseAdvisor.Proofs.Loading

/-!
Where rules come from makes no difference. A list of values is the same rules, or fails for the same
reason, whether the configuration holds it, a JSON file holds it by itself or as the member `rules`
of an object, or a module names it.
-/

namespace ReleaseAdvisor

namespace Reference

variable {w : Workspace} {reference : String}

theorem load_of_document {r : Resource} {text : String} {v : Value}
    (ending : (path w reference).suffix = ".json")
    (found : w.file? (path w reference) = .ok (some r)) (holds : r.content = .text text)
    (document : Json.IsDocument text.toList v)
    (keeps : Json.KeepsTo (some longestWhole) (Text.unifyLineFeeds text.toList)) :
    (load w reference).outcome = .ok (.data v) := by
  have data : isData (path w reference) = true := by simp [isData, ending]
  have reads : r.content.read = .ok (Text.unifyLineFeeds text.toList) := by
    rw [holds]
    rfl
  have read : Json.readDocument (Text.unifyLineFeeds text.toList) = .ok v :=
    document.unified.read_of_keepsTo keeps
  rw [load_of_read data found reads, readData, ending, read]
  rfl

theorem load_of_isModule {attributes : Attributes}
    (other : isData (path w reference) = false) (found : IsModule w reference attributes) :
    (load w reference).outcome = .ok (.code attributes) := by
  unfold load
  simp only [other, Bool.false_eq_true, if_false, Traced.outcome_bind, found.attributes none,
    Outcome.ok_bind]
  rfl

end Reference

namespace RuleSet

/-- The value that a configuration gives for its rules leads to a list: it is the list, or refers to
a JSON file that holds the list, by itself or as the member `rules` of an object, or to a module
that names it. The numbers in a file keep to the digits that can be read. -/
inductive LeadsTo (w : Workspace) (items : List Value) : Value → Prop where
  | inline : LeadsTo w items (.list items)
  | file {reference text : String} {r : Resource} {v : Value}
      (ending : (Reference.path w reference).suffix = ".json")
      (found : w.file? (Reference.path w reference) = .ok (some r))
      (written : r.content = .text text)
      (document : Json.IsDocument text.toList v)
      (keeps : Json.KeepsTo (some longestWhole) (Text.unifyLineFeeds text.toList))
      (holds : v = .list items ∨ ∃ entries, v = .mapping entries ∧
        Entries.get? entries (.text "rules") = some (.list items)) :
      LeadsTo w items (.text reference)
  | module {reference : String} {attributes : Attributes}
      (other : Reference.isData (Reference.path w reference) = false)
      (found : Reference.IsModule w reference attributes)
      (named : attributes.lookup "RELEASE_RULES" = some (.data (.list items))) :
      LeadsTo w items (.text reference)

theorem load_reference {w : Workspace} {reference : String} {loaded : Reference.Loaded}
    (loads : (Reference.load w reference).outcome = .ok loaded) :
    (load w (.text reference)).outcome = (ofValue (within loaded)).map some := by
  unfold load
  simp only [Traced.outcome_bind, loads, Outcome.ok_bind, Traced.outcome_ofExcept]
  cases ofValue (within loaded) with
  | ok rules => rfl
  | error failure => rfl

/-- However a configuration leads to a list, loading it gives the rules that the list writes, or the
failure that the list as it stands gives. -/
theorem load_of_leadsTo {w : Workspace} {items : List Value} {given : Value}
    (leads : LeadsTo w items given) :
    (load w given).outcome = (ofValue (.list items)).map some := by
  cases leads with
  | inline =>
      simp only [load, Traced.outcome_bind, Traced.outcome_ofExcept]
      cases ofValue (.list items) with
      | ok rules => rfl
      | error failure => rfl
  | file ending found written document keeps holds =>
      rw [load_reference (Reference.load_of_document ending found written document keeps)]
      rcases holds with rfl | ⟨entries, rfl, member⟩
      · rfl
      · simp [within, member]
  | module other found named =>
      rw [load_reference (Reference.load_of_isModule other found)]
      simp [within, named]

end RuleSet

namespace Sample

def ruleItems : List Value :=
  [.mapping [(.text "type", .text "feat"), (.text "release", .text "minor")],
    .mapping [(.text "scope", .list [.int (-12), .null])]]

def ruleList : String :=
  "[\r\n\t\x7b\"type\": \"\\u0066eat\",\r\"release\":\"minor\"\x7d ," ++
    "\x7b\"\\u0073cope\" : [-12, null]\x7d]\r\n"

def ruleObject : String :=
  "\x7b\"rules\": 1, \"about\": true, \"rules\":[\x7b\"type\":\"feat\"," ++
    "\"release\":\"minor\"\x7d,\x7b\"scope\":[-12,null]\x7d]\x7d"

def ruleAttributes : Attributes :=
  [("OTHER", .data .null), ("RELEASE_RULES", .data (.list ruleItems))]

def ruleFiles : Workspace where
  root := ⟨"/", []⟩
  files := [(["list.json"], { content := .text ruleList }),
    (["object.json"], { content := .text ruleObject }),
    (["rules.py"], ⟨.text "", .loaded ruleAttributes⟩), (["shared.py"], ⟨.text "", .loaded []⟩)]
  imports name := if name = "shared" then .loaded ruleAttributes else .failed .moduleMissing

theorem ruleFiles_plain : ∀ reference ∈ ["list.json", "object.json", "rules.py"],
    Workspace.hasZero (Reference.path ruleFiles reference) = false := by
  simp only [Workspace.hasZero_eq]
  decide +kernel

theorem list_leadsTo : RuleSet.LeadsTo ruleFiles ruleItems (.text "list.json") := by
  have located : ruleFiles.locate (Reference.path ruleFiles "list.json") =
      .ok { content := .text ruleList } := by
    cbv
  have found := Workspace.file?_of_locate (ruleFiles_plain "list.json" (by simp)) located
  have document : Json.IsDocument ruleList.toList (.list ruleItems) :=
    Json.readDocument_iff.mp (by cbv)
  exact .file (by decide +kernel) found rfl document
    (Json.keepsTo_of_length_le (by decide +kernel)) (.inl rfl)

theorem object_leadsTo : RuleSet.LeadsTo ruleFiles ruleItems (.text "object.json") := by
  have located : ruleFiles.locate (Reference.path ruleFiles "object.json") =
      .ok { content := .text ruleObject } := by
    cbv
  have found := Workspace.file?_of_locate (ruleFiles_plain "object.json" (by simp)) located
  have document : Json.IsDocument ruleObject.toList
      (.mapping [(.text "rules", .list ruleItems), (.text "about", .bool true)]) :=
    Json.readDocument_iff.mp (by cbv)
  exact .file (by decide +kernel) found rfl document
    (Json.keepsTo_of_length_le (by decide +kernel)) (.inr ⟨_, rfl, by cbv⟩)

theorem module_leadsTo : RuleSet.LeadsTo ruleFiles ruleItems (.text "rules.py") := by
  have located : ruleFiles.locate (Reference.path ruleFiles "rules.py") =
      .ok ⟨.text "", .loaded ruleAttributes⟩ := by
    cbv
  have there := Workspace.file?_of_locate (ruleFiles_plain "rules.py" (by simp)) located
  have ending : (Reference.path ruleFiles "rules.py").suffix = Reference.moduleEnding := by
    decide +kernel
  have absent : Reference.IsNotImportable ruleFiles "rules.py" :=
    ⟨.moduleMissing, by simp [ruleFiles], rfl⟩
  exact .module (by decide +kernel) (.of_file absent ending there rfl) rfl

theorem imported_leadsTo : RuleSet.LeadsTo ruleFiles ruleItems (.text "shared") := by
  have loads : ruleFiles.imports "shared" = .loaded ruleAttributes := by simp [ruleFiles]
  exact .module (by decide +kernel) (.byName loads) rfl

end Sample

open Sample

/-- A rule without a release fails alike wherever it comes from; of the two modules `shared`, the one
that can be imported counts and not the file. -/
theorem RuleSet.load_of_leadsTo_malformed :
    (ofValue (.list ruleItems)).map some = .error (.report .ruleMalformed) ∧
      (load ruleFiles (.list ruleItems)).outcome = .error (.report .ruleMalformed) ∧
      (load ruleFiles (.text "list.json")).outcome = .error (.report .ruleMalformed) ∧
      (load ruleFiles (.text "object.json")).outcome = .error (.report .ruleMalformed) ∧
      (load ruleFiles (.text "rules.py")).outcome = .error (.report .ruleMalformed) ∧
      (load ruleFiles (.text "shared")).outcome = .error (.report .ruleMalformed) := by
  have fails : (ofValue (.list ruleItems)).map some = .error (.report .ruleMalformed) := by cbv
  refine ⟨fails, ?_, ?_, ?_, ?_, ?_⟩
  · exact (load_of_leadsTo .inline).trans fails
  · exact (load_of_leadsTo list_leadsTo).trans fails
  · exact (load_of_leadsTo object_leadsTo).trans fails
  · exact (load_of_leadsTo module_leadsTo).trans fails
  · exact (load_of_leadsTo imported_leadsTo).trans fails

end ReleaseAdvisor
