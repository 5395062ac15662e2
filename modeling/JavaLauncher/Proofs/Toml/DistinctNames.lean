import JavaLauncher.Toml.Document

/-!
# The names of a document

No name stands twice in the table of a document. A document is read statement by statement, and
whatever a statement does to the table comes down to one name that is set
(`setsOne_of_statement?`). That adds the name where it is missing and otherwise leaves all names
what they were (`Nodes.Distinct.set`), so they stay apart to the end of the document
(`nodup_names_of_parse?`).
-/
namespace JavaLauncher.Toml

/-- No name stands twice among some nodes. -/
def Nodes.Distinct (nodes : Nodes) : Prop := (nodes.map Prod.fst).Nodup

namespace Nodes

/-- No nodes have no names. -/
theorem distinct_nil : Distinct [] := List.nodup_nil

/-- After a name is set, the names are those that there were and this one. -/
theorem mem_names_set {nodes : Nodes} {name other : String} {node : Node}
    (member : other ∈ (nodes.set name node).map Prod.fst) :
    other = name ∨ other ∈ nodes.map Prod.fst := by
  induction nodes with
  | nil => exact .inl (List.mem_singleton.1 member)
  | cons entry rest ih =>
    rw [set] at member
    split at member
    · rcases List.mem_cons.1 member with same | later
      · exact .inl same
      · exact .inr (List.mem_cons_of_mem _ later)
    · rcases List.mem_cons.1 member with same | later
      · exact .inr (same ▸ List.mem_cons_self)
      · exact (ih later).imp_right (List.mem_cons_of_mem _)

/-- Setting a name keeps the names apart. -/
theorem Distinct.set {nodes : Nodes} (distinct : nodes.Distinct) (name : String) (node : Node) :
    (nodes.set name node).Distinct := by
  induction nodes with
  | nil => exact List.nodup_cons.2 ⟨List.not_mem_nil, List.nodup_nil⟩
  | cons entry rest ih =>
    obtain ⟨fresh, others⟩ := List.nodup_cons.1 distinct
    rw [Nodes.set]
    split
    · rename_i same
      exact List.nodup_cons.2 ⟨same ▸ fresh, others⟩
    · rename_i different
      refine List.nodup_cons.2 ⟨fun member => ?_, ih others⟩
      exact (mem_names_set member).elim different fresh

/-- Some nodes come from others by one name that is set. -/
def SetsOne (before after : Nodes) : Prop := ∃ name node, after = before.set name node

/-- Setting one name keeps the names apart. -/
theorem Distinct.of_setsOne {before after : Nodes} (distinct : before.Distinct)
    (sets : SetsOne before after) : after.Distinct := by
  obtain ⟨name, node, rfl⟩ := sets
  exact distinct.set name node

/-- Entering a table by a path sets the first name of the path, or does what is done to the table
where there is no path. -/
theorem setsOne_of_enter {change : Nodes → Option Nodes} {path : List String}
    {before after : Nodes} (changes : change before = some after → SetsOne before after)
    (entered : enter change path before = some after) : SetsOne before after := by
  cases path with
  | nil => exact changes entered
  | cons name path =>
    rw [enter] at entered
    split at entered
    · obtain ⟨_, _, rfl⟩ := Option.map_eq_some_iff.1 entered
      exact ⟨_, _, rfl⟩
    · obtain ⟨_, _, rfl⟩ := Option.map_eq_some_iff.1 entered
      exact ⟨_, _, rfl⟩
    · split at entered
      · cases entered
      · obtain ⟨_, _, rfl⟩ := Option.map_eq_some_iff.1 entered
        exact ⟨_, _, rfl⟩
    · cases entered

/-- Opening the table of a header sets one name. -/
theorem setsOne_of_openTable {path : List String} {name : String} {before after : Nodes}
    (opened : before.openTable path name = some after) : SetsOne before after := by
  refine setsOne_of_enter (fun changed => ?_) opened
  split at changed
  · exact ⟨_, _, (Option.some.inj changed).symm⟩
  · exact ⟨_, _, (Option.some.inj changed).symm⟩
  · cases changed

/-- Opening an element of an array of tables sets one name. -/
theorem setsOne_of_openElement {path : List String} {name : String} {before after : Nodes}
    (opened : before.openElement path name = some after) : SetsOne before after := by
  refine setsOne_of_enter (fun changed => ?_) opened
  split at changed
  · exact ⟨_, _, (Option.some.inj changed).symm⟩
  · exact ⟨_, _, (Option.some.inj changed).symm⟩
  · cases changed

/-- Setting a dotted key sets the first of its names. -/
theorem setsOne_of_assign {name : String} {value : Value} {path : List String} {mayGrow : Bool}
    {before after : Nodes} (assigned : assign name value path mayGrow before = some after) :
    SetsOne before after := by
  cases path with
  | nil =>
    rw [assign] at assigned
    split at assigned
    · exact ⟨_, _, (Option.some.inj assigned).symm⟩
    · cases assigned
  | cons step path =>
    rw [assign] at assigned
    split at assigned
    · obtain ⟨_, _, rfl⟩ := Option.map_eq_some_iff.1 assigned
      exact ⟨_, _, rfl⟩
    · cases assigned
    · obtain ⟨_, _, rfl⟩ := Option.map_eq_some_iff.1 assigned
      exact ⟨_, _, rfl⟩
    · obtain ⟨_, _, rfl⟩ := Option.map_eq_some_iff.1 assigned
      exact ⟨_, _, rfl⟩
    · split at assigned
      · cases assigned
      · obtain ⟨_, _, rfl⟩ := Option.map_eq_some_iff.1 assigned
        exact ⟨_, _, rfl⟩
    · cases assigned

end Nodes

/-- A header or a setting sets one name of the document. -/
theorem setsOne_of_statement? {progress after : Progress} {text rest : List Char}
    (read : statement? progress text = some (after, rest)) :
    progress.root.SetsOne after.root := by
  unfold statement? at read
  split at read
  · simp only [Option.bind_eq_bind, Option.bind_eq_some_iff] at read
    obtain ⟨_, _, read⟩ := read
    split at read
    · obtain ⟨root, opened, _, _, found⟩ := by
        simpa only [Option.bind_eq_bind, Option.bind_eq_some_iff] using read
      cases found
      exact Nodes.setsOne_of_openElement opened
    · cases read
  · simp only [Option.bind_eq_bind, Option.bind_eq_some_iff] at read
    obtain ⟨_, _, read⟩ := read
    split at read
    · obtain ⟨root, opened, _, _, found⟩ := by
        simpa only [Option.bind_eq_bind, Option.bind_eq_some_iff] using read
      cases found
      exact Nodes.setsOne_of_openTable opened
    · cases read
  · simp only [Option.bind_eq_bind, Option.bind_eq_some_iff] at read
    obtain ⟨_, _, root, entered, _, _, found⟩ := read
    cases found
    exact Nodes.setsOne_of_enter Nodes.setsOne_of_assign entered

/-- Reading statements to the end of a text keeps the names of the document apart. -/
theorem distinct_of_statements? {bound : Nat} {progress : Progress} {text : List Char}
    {root : Nodes} (distinct : progress.root.Distinct)
    (read : statements? bound progress text = some root) : root.Distinct := by
  induction bound generalizing progress text with
  | zero => cases read
  | succ bound ih =>
    rw [statements?] at read
    split at read
    · obtain rfl := Option.some.inj read
      exact distinct
    · simp only [Option.bind_eq_bind, Option.bind_eq_some_iff] at read
      obtain ⟨⟨next, rest⟩, statement, read⟩ := read
      exact ih (distinct.of_setsOne (setsOne_of_statement? statement)) read

/-- Finishing a table keeps its names. -/
theorem names_finishTable (nodes : Nodes) :
    (finishTable nodes).map Prod.fst = nodes.map Prod.fst := by
  induction nodes with
  | nil => rfl
  | cons entry rest ih =>
    rw [finishTable, List.map_cons, List.map_cons, ih]

/-- No name stands twice in the table of a document. -/
theorem nodup_names_of_parse? {text : String} {table : Table} (parsed : parse? text = some table) :
    (table.map Prod.fst).Nodup := by
  obtain ⟨root, read, rfl⟩ := Option.map_eq_some_iff.1 parsed
  rw [names_finishTable]
  exact distinct_of_statements? Nodes.distinct_nil read

end JavaLauncher.Toml
