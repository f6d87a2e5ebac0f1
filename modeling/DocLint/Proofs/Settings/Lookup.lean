import DocLint.Settings.Lookup
import Mathlib.Data.List.Infix

/-!
# Which project file decides

On the way up from the start directory, a directory without a project file is passed
over, and so is one whose project file cannot be opened. The first other directory
decides alone: by the section with the settings, by its lack of one, or by being no
project file at all. So the settings of a project never leak into another one that
lies within it.

Results:
* `ProjectFile.search_append`: directories that are passed over do not matter.
* `ProjectFile.decides_search`, `ProjectFile.search_cons_congr`: what the first other
  directory decides, whatever lies above it.
* `ProjectTree.chain_eq`: the directories on the way up.
* `search_nearest`: the configuration for any chain of directories.
-/
namespace DocLint

theorem Value.fields?_eq_some_iff {value : Value} {fields : Table} :
    value.fields? = some fields ↔ value = .table fields := by
  cases value <;> simp [Value.fields?]

namespace ProjectFile

/-- Whether the search goes on above a directory. -/
def IsPassed (file : ProjectFile) : Prop := file = missing ∨ file = unopenable

/-- Whether the entry about tools in a project file is absent, counts as absent, or is
a table. -/
def ListsTools : ProjectFile → Prop
  | table top => ∀ tool, Assoc.lookup "tool" top = some tool →
      tool.isTruthy = false ∨ ∃ fields, tool = .table fields
  | _ => True

/-- Whether the section with the settings is the given table. -/
def HasSection (top settings : Table) : Prop :=
  ∃ fields, Assoc.lookup "tool" top = some (.table fields) ∧
    Assoc.lookup sectionName fields = some (.table settings)

inductive Decides : ProjectFile → Except Fault Table → Prop
  | malformed (reason : String) : Decides (malformed reason) (.error (.malformedFile reason))
  | undecodable (reason : String) : Decides (undecodable reason) (.error (.undecodableFile reason))
  | settings (top settings : Table) (h : HasSection top settings) (hne : settings ≠ []) :
    Decides (table top) (.ok settings)
  /-- Without such a section, or with an empty one, there are no settings. -/
  | empty (top : Table) (h : ∀ settings, HasSection top settings → settings = []) :
    Decides (table top) (.ok [])

variable {passed : List ProjectFile} {file : ProjectFile} {top fields settings : Table}

theorem search_append (h : ∀ f ∈ passed, f.IsPassed) (chain : List ProjectFile) :
    search (passed ++ chain) = search chain := by
  induction passed with
  | nil => rfl
  | cons f passed ih =>
    have hrest := ih fun g hg => h g (List.mem_cons_of_mem f hg)
    rcases h f (List.mem_cons_self ..) with rfl | rfl
    · exact hrest
    · exact hrest

theorem configuration_of_table (htool : Assoc.lookup "tool" top = some (.table fields)) :
    configuration top = .ok (((Assoc.lookup sectionName fields).bind Value.fields?).getD []) := by
  unfold configuration
  rw [htool]
  cases fields <;> rfl

theorem configuration_of_falsy
    (h : ((Assoc.lookup "tool" top).getD .null).isTruthy = false) : configuration top = .ok [] := by
  simp [configuration, h]

theorem hasSection_iff (htool : Assoc.lookup "tool" top = some (.table fields)) :
    HasSection top settings ↔
      (Assoc.lookup sectionName fields).bind Value.fields? = some settings := by
  simp [HasSection, htool, Option.bind_eq_some_iff, Value.fields?_eq_some_iff]

/-- A section that is a table is found, and an empty one counts as none. -/
theorem decides_configuration (h : (table top).ListsTools) :
    Decides (table top) (configuration top) := by
  by_cases htable : ∃ fields, Assoc.lookup "tool" top = some (.table fields)
  · obtain ⟨fields, htool⟩ := htable
    rw [configuration_of_table htool]
    cases hsection : (Assoc.lookup sectionName fields).bind Value.fields? with
    | none =>
      refine .empty top fun settings hsettings => ?_
      simp [hasSection_iff htool, hsection] at hsettings
    | some settings =>
      by_cases hne : settings = []
      · subst hne
        refine .empty top fun settings hsettings => ?_
        simpa [hasSection_iff htool, hsection, eq_comm] using hsettings
      · exact .settings top settings ((hasSection_iff htool).2 hsection) hne
  · have hfalsy : ((Assoc.lookup "tool" top).getD .null).isTruthy = false := by
      cases htool : Assoc.lookup "tool" top with
      | none => rfl
      | some tool =>
        exact (h tool htool).resolve_right fun ⟨fields, heq⟩ => htable ⟨fields, heq ▸ htool⟩
    rw [configuration_of_falsy hfalsy]
    exact .empty top fun settings ⟨fields, htool, _⟩ => absurd ⟨fields, htool⟩ htable

/-- The first directory that is not passed over decides. -/
theorem decides_search (hfile : ¬file.IsPassed) (htools : file.ListsTools)
    (above : List ProjectFile) : file.Decides (search (file :: above)) := by
  cases file with
  | missing => exact absurd (.inl rfl) hfile
  | unopenable => exact absurd (.inr rfl) hfile
  | malformed reason => exact .malformed reason
  | undecodable reason => exact .undecodable reason
  | table top => exact decides_configuration htools

theorem search_cons_congr (hfile : ¬file.IsPassed) (above above' : List ProjectFile) :
    search (file :: above) = search (file :: above') := by
  cases file with
  | missing => exact absurd (.inl rfl) hfile
  | unopenable => exact absurd (.inr rfl) hfile
  | _ => rfl

/-- Every chain is passed over, or has a first directory that is not. -/
theorem exists_nearest (chain : List ProjectFile) : (∀ f ∈ chain, f.IsPassed) ∨
    ∃ passed file above, chain = passed ++ file :: above ∧ (∀ f ∈ passed, f.IsPassed) ∧
      ¬file.IsPassed := by
  induction chain with
  | nil => exact .inl fun f hf => by cases hf
  | cons first rest ih =>
    by_cases hfirst : first.IsPassed
    · rcases ih with hall | ⟨passed, file, above, rfl, hpassed, hfile⟩
      · exact .inl (List.forall_mem_cons.2 ⟨hfirst, hall⟩)
      · have hpassed' := List.forall_mem_cons.2 ⟨hfirst, hpassed⟩
        exact .inr ⟨first :: passed, file, above, rfl, hpassed', hfile⟩
    · exact .inr ⟨[], first, rest, rfl, fun f hf => (List.not_mem_nil hf).elim, hfirst⟩

end ProjectFile

namespace ProjectTree

/-- The way up from a directory leads to all ends of its path. -/
theorem chain_eq (tree : ProjectTree) (path : List String) :
    tree.chain path = path.tails.map tree.fileAt := by
  induction path with
  | nil => rfl
  | cons part parent ih => rw [chain, ih, List.tails, List.map_cons]

end ProjectTree

open ProjectFile

/-- The configuration for a chain of directories, and for a directory in a tree with
the chain of directories above it. The nearest directory that is not passed over
decides it, and what lies above that one makes no difference. -/
theorem search_nearest :
    (∀ chain : List ProjectFile, (∀ file ∈ chain, file.ListsTools) →
      ((∀ file ∈ chain, file.IsPassed) ∧ search chain = .ok []) ∨
      ∃ passed file above, chain = passed ++ file :: above ∧ (∀ f ∈ passed, f.IsPassed) ∧
        ¬file.IsPassed ∧ file.Decides (search chain) ∧
        ∀ above', search (passed ++ file :: above') = search chain) ∧
    ∀ (tree : ProjectTree) (start : String) (path : List String),
      ProjectTree.Place.ofString start = { path := path } → start.startsWith "/" = false →
      tree.configurationFor start = search (path.tails.map tree.fileAt) := by
  constructor
  · intro chain htools
    rcases exists_nearest chain with hall | ⟨passed, file, above, rfl, hpassed, hfile⟩
    · refine .inl ⟨hall, ?_⟩
      simpa [search] using search_append hall []
    · refine .inr ⟨passed, file, above, rfl, hpassed, hfile, ?_, fun above' => ?_⟩
      · rw [search_append hpassed]
        exact decides_search hfile (htools file (by simp)) above
      · rw [search_append hpassed, search_append hpassed, search_cons_congr hfile]
  · intro tree start path hplace hstart
    simp [ProjectTree.configurationFor, hplace, hstart, ProjectTree.chain_eq]

/-- A project with settings, in it a package with a project file of its own that has
no section for them, and in the package a project file that cannot be opened. -/
def nestedProject : ProjectTree := ⟨[
  ([], .table [("tool", .table [(sectionName,
    .table [("ignored_params", .list [.text "self"])])])]),
  (["pkg"], .table [("project", .table [])]),
  (["src", "pkg"], .unopenable)]⟩

/-- In the package there are no settings, and above it there are. -/
theorem nestedProject_configuration :
    (∃ passed file above,
      ["part", "src", "pkg"].tails.map nestedProject.fileAt = passed ++ file :: above ∧
        ¬file.IsPassed ∧ file.Decides (nestedProject.configurationFor "pkg/src/part")) ∧
    nestedProject.configurationFor "pkg/src/part" = .ok [] ∧
    nestedProject.configurationFor "." = .ok [("ignored_params", .list [.text "self"])] := by
  have hbelow := search_nearest.2 nestedProject "pkg/src/part" ["part", "src", "pkg"]
    (by simp +decide [ProjectTree.Place.ofString, String.splitOn, String.splitOnAux,
      ProjectTree.Place.step]) (by decide +kernel)
  have habove := search_nearest.2 nestedProject "." []
    (by simp +decide [ProjectTree.Place.ofString, String.splitOn, String.splitOnAux])
    (by decide +kernel)
  have hchain : ["part", "src", "pkg"].tails.map nestedProject.fileAt =
    [.missing, .unopenable, .table [("project", .table [])], nestedProject.fileAt []] := rfl
  have htools :
      ∀ file ∈ ["part", "src", "pkg"].tails.map nestedProject.fileAt, file.ListsTools := by
    rw [hchain]
    simp [ListsTools, nestedProject, ProjectTree.fileAt, Assoc.lookup]
  refine ⟨?_, hbelow, habove⟩
  rw [hbelow]
  rcases search_nearest.1 _ htools with
    ⟨hall, -⟩ | ⟨passed, file, above, hcut, -, hfile, hdecides, -⟩
  · have htable := hall (.table [("project", .table [])]) (by rw [hchain]; simp)
    simp [IsPassed] at htable
  · exact ⟨passed, file, above, hcut, hfile, hdecides⟩

end DocLint
