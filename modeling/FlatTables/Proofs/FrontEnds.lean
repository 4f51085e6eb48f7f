import FlatTables.Command.Handle
import FlatTables.Proofs.DescriptorTexts
import FlatTables.Proofs.Settings
import FlatTables.Proofs.SoundTables

/-!
# One query told in three ways

What is asked of a table (`Wish`) can be told by a subcommand (`Wish.CommandedBy`), by settings
(`Wish.SetBy`) or by a descriptor (`Wish.ToldBy`). Settings of different clauses may come in any
order, since only the order of those for one clause counts (`Query.build_eq_of_agree`).

All three lead to one query, whose payload keeps the last of the values assigned to a column, and
so the program does the same with each (`Wish.fronts_agree`).
-/

set_option autoImplicit false
set_option relaxedAutoImplicit false

namespace FlatTables

open Command

/-! ### Wishes -/

/-- The operations that assign values. -/
def Operation.assigns : Operation → Bool
  | .insert => true
  | .update => true
  | _ => false

/-- What is asked of a table. -/
structure Wish where
  operation : Operation
  table : String
  /-- If none is listed, all are asked for. -/
  columns : List String := []
  filter : Option Filter := none
  join : Option Join := none
  sort : Option OrderBy := none
  /-- A column may be assigned to several times. -/
  assignments : List (String × String) := []

namespace Wish

/-- The columns asked for. -/
def projection (wish : Wish) : Projection :=
  if wish.columns = [] then .all else .columns wish.columns

/-- The assignments, for the operations that make some. -/
def assigned (wish : Wish) : Option (List (String × String)) :=
  if wish.operation.assigns then some wish.assignments else none

/-- The query for a wish. -/
def query (wish : Wish) : Query where
  operation := wish.operation
  table := some wish.table
  projection := wish.projection
  filter := wish.filter
  join := wish.join
  sort := wish.sort
  payload := wish.assigned.map .ofList

/-- A filter as a subcommand takes it. -/
def condition (filter : Option Filter) : Option (String × String) :=
  filter.map fun filter ↦ (filter.column, filter.value)

/-- The subcommand for a wish. Each takes only some clauses. -/
inductive CommandedBy : Wish → Request → Prop
  | select (table : String) (columns : List String) (filter : Option Filter) (join : Option Join)
      (sort : Option OrderBy) (assignments : List (String × String)) :
      CommandedBy ⟨.select, table, columns, filter, join, sort, assignments⟩
        (.select table columns (condition filter) join sort)
  | insert (table : String) (assignments : List (String × String)) :
      CommandedBy ⟨.insert, table, [], none, none, none, assignments⟩ (.insert table assignments)
  | update (table : String) (filter : Option Filter) (assignments : List (String × String)) :
      CommandedBy ⟨.update, table, [], filter, none, none, assignments⟩
        (.update table assignments (condition filter))
  | delete (table : String) (filter : Option Filter) (assignments : List (String × String)) :
      CommandedBy ⟨.delete, table, [], filter, none, none, assignments⟩
        (.delete table (condition filter))

/-- The ways of setting the columns. -/
inductive Projecting (wish : Wish) : List Setting → Prop
  | silent (hcolumns : wish.columns = []) : Projecting wish []
  | all (hcolumns : wish.columns = []) : Projecting wish [.allColumns]
  | columns (hcolumns : wish.columns ≠ []) : Projecting wish [.columns wish.columns]
  | projection : Projecting wish [.projection wish.projection]

/-- The settings for the other clauses that the wish has. An empty payload comes before the
assignments. -/
def settings (wish : Wish) : List Setting :=
  (wish.filter.toList.map fun filter ↦ .filter filter.column filter.value) ++
    (wish.join.toList.map fun join ↦ .join join.column join.table join.otherColumn) ++
    (wish.sort.toList.map fun order ↦ .orderBy order.column order.direction) ++
    wish.assigned.elim [] fun assignments ↦
      .payload .empty :: assignments.map fun entry ↦ .set entry.1 entry.2

/-- Settings for a wish, in any order that keeps the order of the assignments. -/
inductive SetBy (wish : Wish) : List Setting → Prop
  | inAnyOrder {projecting settings : List Setting} (hprojecting : wish.Projecting projecting)
      (hagree : Setting.Agree settings (projecting ++ wish.settings)) : SetBy wish settings

/-- Descriptors for a wish, whose payload lists the assignments as they are. -/
def ToldBy (wish : Wish) (text : String) : Prop :=
  wish.query.DescriptorText wish.assigned text.toList

variable {wish : Wish}

theorem filterOf_condition (filter : Option Filter) :
    Request.filterOf (condition filter) = filter := by
  cases filter <;> rfl

theorem query_of_commandedBy {request : Request} (hrequest : wish.CommandedBy request) :
    request.query = pure (.ok wish.query) := by
  cases hrequest with
  | select table columns filter join sort assignments =>
    simp only [Request.query, filterOf_condition, List.isEmpty_iff]
    rfl
  | insert table assignments => rfl
  | update table filter assignments =>
    simp only [Request.query, filterOf_condition]
    rfl
  | delete table filter assignments =>
    simp only [Request.query, filterOf_condition]
    rfl

theorem build_sets (query : Query) (payload : Payload) (assignments : List (String × String)) :
    Query.build { query with payload := some payload }
        (assignments.map fun entry ↦ .set entry.1 entry.2) =
      { query with payload := some (assignments.foldl
          (fun payload entry ↦ payload.insert entry.1 entry.2) payload) } := by
  induction assignments generalizing payload with
  | nil => rfl
  | cons entry assignments ih => exact ih (payload.insert entry.1 entry.2)

theorem build_assigning (query : Query) (assigned : Option (List (String × String)))
    (hpayload : query.payload = none) :
    query.build (assigned.elim [] fun assignments ↦
        .payload .empty :: assignments.map fun entry ↦ .set entry.1 entry.2) =
      { query with payload := assigned.map .ofList } := by
  cases assigned with
  | none => rw [Option.map_none, ← hpayload]; rfl
  | some assignments => exact build_sets query .empty assignments

theorem build_of_projecting {settings : List Setting} (hsettings : wish.Projecting settings)
    (query : Query) (hprojection : query.projection = .all) :
    query.build settings = { query with projection := wish.projection } := by
  cases hsettings with
  | silent hcolumns => rw [projection, if_pos hcolumns, ← hprojection]; rfl
  | all hcolumns => rw [projection, if_pos hcolumns]; rfl
  | columns hcolumns => rw [projection, if_neg hcolumns]; rfl
  | projection => rfl

theorem build_of_setBy {settings : List Setting} (hsettings : wish.SetBy settings) :
    (Query.on wish.operation wish.table).build settings = wish.query := by
  obtain ⟨hprojecting, hagree⟩ := hsettings
  have hclauses (start : Query) (hfilter : start.filter = none) (hjoin : start.join = none)
      (hsort : start.sort = none) :
      start.build (wish.filter.toList.map (fun filter ↦ .filter filter.column filter.value) ++
        wish.join.toList.map (fun join ↦ .join join.column join.table join.otherColumn) ++
        wish.sort.toList.map fun order ↦ .orderBy order.column order.direction) =
      { start with filter := wish.filter, join := wish.join, sort := wish.sort } := by
    obtain ⟨⟩ := start
    subst hfilter hjoin hsort
    cases wish.filter <;> cases wish.join <;> cases wish.sort <;> rfl
  rw [Query.build_eq_of_agree hagree, Query.build_append, build_of_projecting hprojecting _ rfl,
    Wish.settings, Query.build_append, hclauses _ rfl rfl rfl, build_assigning _ _ rfl]
  rfl

theorem ofText_of_toldBy {text : String} (htext : wish.ToldBy text) :
    Query.ofText text = .ok wish.query :=
  Query.ofText_eq_of_descriptorText htext

end Wish

/-! ### Carrying out -/

namespace Command

variable {text path : String} {input : ByteArray} {disk : Disk} {request : Request} {query : Query}

/-- Carries a query out and gives what is printed, as the program does once it has the query. -/
def Globals.carryOut (globals : Globals) (query : Query) :
    Procedure (Except CommandError String) := do
  match ← globals.configuration with
  | .error fault => return .error (.fault fault)
  | .ok config =>
    Procedure.log (.usingDirectory config.directory)
    match ← query.execute config with
    | .error fault => return .error (.fault fault)
    | .ok answer =>
      return .ok ((if globals.pretty then answer.toJson.pretty else answer.toJson.compact) ++ "\n")

theorem handle_eq_carryOut (hquery : request.query = pure (.ok query)) (globals : Globals) :
    Invocation.handle ⟨globals, request⟩ = globals.carryOut query := by
  unfold Invocation.handle Globals.carryOut
  rw [hquery]
  rfl

/-- Where a descriptor is read: in a file, or on the standard input. -/
inductive ReadAt (text : String) (input : ByteArray) (disk : Disk) : (path : String) → Prop
  | input (hinput : input = text.toUTF8) : ReadAt text input disk Request.inputName
  | file {path : String} (hpath : path ≠ Request.inputName)
      (hread : disk.read path = .ok text.toUTF8) : ReadAt text input disk path

theorem run_descriptorText (hread : ReadAt text input disk path) :
    (Request.descriptorText path).run input disk = ⟨.ok text, disk, []⟩ := by
  have hdecode := Procedure.decodeText_toUTF8 text
  cases hread with
  | input hinput =>
    rw [Request.descriptorText, if_pos rfl, Procedure.inputText, Procedure.run, hinput, hdecode]
    rfl
  | file hpath hread =>
    rw [Request.descriptorText, if_neg hpath]
    change Procedure.run input disk (.done ((disk.read path).bind Procedure.decodeText)) = _
    rw [hread, Except.bind, hdecode]
    rfl

theorem run_query_run (htext : Query.ofText text = .ok query)
    (hread : ReadAt text input disk path) :
    (Request.run path).query.run input disk = ⟨.ok query, disk, []⟩ := by
  rw [Request.query, Procedure.bind_eq_andThen,
    Procedure.run_andThen_of_eq (run_descriptorText hread)]
  simp only [htext]
  rfl

theorem Globals.disk_run_configuration (globals : Globals) (input : ByteArray) (disk : Disk) :
    (globals.configuration.run input disk).disk = disk := by
  have hreads : globals.configuration.Meets (fun _ ↦ False) fun _ ↦ True := by
    unfold configuration
    cases globals.config with
    | none => trivial
    | some path =>
      intro content
      change Procedure.Meets _ _ (Procedure.andThen (Procedure.andThen
        (.done (content.bind Procedure.decodeText)) _) _)
      cases content.bind Procedure.decodeText <;> trivial
  rw [← Procedure.runUnder_nil]
  exact (hreads.runUnder input [] disk).1

/-- A descriptor that is read is carried out like the query that it tells. -/
theorem handle_run_eq (htext : Query.ofText text = .ok query)
    (hread : ReadAt text input disk path) (globals : Globals) :
    (Invocation.handle ⟨globals, .run path⟩).run input disk =
      (globals.carryOut query).run input disk := by
  refine Procedure.run_andThen_congr ?_
  rw [globals.disk_run_configuration]
  generalize (globals.configuration.run input disk).result = base
  cases base with
  | error fault => rfl
  | ok config =>
    refine Procedure.run_andThen_congr ?_
    exact Procedure.run_andThen_of_eq (run_query_run htext hread)

end Command

namespace Wish

/-- Every wish is told by a text. -/
theorem toldBy_listing (wish : Wish) : wish.ToldBy (wish.query.listing wish.assigned).compact :=
  wish.query.descriptorText_listing wish.assigned

/-- Settings and a descriptor for a wish, and the subcommand for it where there is one, come to one
query, which has the clauses of the wish and the last of the values assigned to each column. The
program does the same with the descriptor and with the subcommand, from the same files: it carries
this query out. -/
theorem fronts_agree (wish : Wish) {settings : List Setting} {text : String}
    (hsettings : wish.SetBy settings) (htext : wish.ToldBy text) :
    let query := (Query.on wish.operation wish.table).build settings
    query = wish.query ∧ Query.ofText text = .ok query ∧
      (∀ request, wish.CommandedBy request → request.query = pure (.ok query)) ∧
      (∀ column, query.payload.map (·.get? column) =
        wish.assigned.map (·.reverse.lookup column)) ∧
      ∀ (globals : Globals) (input : ByteArray) (disk : Disk),
        (∀ path, ReadAt text input disk path →
          (Invocation.handle ⟨globals, .run path⟩).run input disk =
            (globals.carryOut query).run input disk) ∧
        ∀ request, wish.CommandedBy request →
          (Invocation.handle ⟨globals, request⟩).run input disk =
            (globals.carryOut query).run input disk := by
  intro query
  have hquery : query = wish.query := build_of_setBy hsettings
  have hread : Query.ofText text = .ok query := hquery ▸ ofText_of_toldBy htext
  have hcommand (request : Request) (hrequest : wish.CommandedBy request) :
      request.query = pure (.ok query) := hquery ▸ query_of_commandedBy hrequest
  refine ⟨hquery, hread, hcommand, ?_, ?_⟩
  · intro column
    rw [hquery, Wish.query, Option.map_map]
    exact congrArg (wish.assigned.map ·) (funext fun _ ↦ Payload.get?_ofList _ column)
  · intro globals input disk
    constructor
    · exact fun path hpath ↦ handle_run_eq hread hpath globals
    · intro request hrequest
      rw [handle_eq_carryOut (hcommand request hrequest)]

/-- An update that assigns to a column twice. -/
def assigningTwice : Wish where
  operation := .update
  table := "t"
  filter := some ⟨"x", "y"⟩
  assignments := [("a", "1"), ("b", "2"), ("a", "3")]

theorem fronts_agree_assigningTwice :
    let settings : List Setting := [.payload .empty, .set "a" "1", .filter "x" "y", .set "b" "2",
      .set "a" "3"]
    let text := "\x7b\"operation\":\"UPDATE\",\"table\":\"t\",\"projection\":\"*\"," ++
      "\"filter\":\x7b\"column\":\"x\",\"value\":\"y\"\x7d,\"join\":null,\"sort\":null," ++
      "\"payload\":\x7b\"a\":\"1\",\"b\":\"2\",\"a\":\"3\"\x7d\x7d"
    let request : Request := .update "t" [("a", "1"), ("b", "2"), ("a", "3")] (some ("x", "y"))
    let query : Query :=
      { Query.on .update "t" with
        filter := some ⟨"x", "y"⟩, payload := some (.ofList [("a", "3"), ("b", "2")]) }
    (Query.on .update "t").build settings = query ∧ Query.ofText text = .ok query ∧
      request.query = pure (.ok query) := by
  intro settings text request query
  have hagree : Setting.Agree settings assigningTwice.settings := by
    intro name
    by_cases hpayload : "payload" = name
    · subst hpayload
      decide
    · by_cases hfilter : "filter" = name
      · subst hfilter
        decide
      · simp [settings, assigningTwice, Wish.settings, assigned, Operation.assigns, Setting.field,
          hpayload, hfilter]
  have hsettings : assigningTwice.SetBy settings := .inAnyOrder (.silent rfl) hagree
  have hlisting : (assigningTwice.query.listing assigningTwice.assigned).compact = text := by
    decide +kernel
  have htext : assigningTwice.ToldBy text := hlisting ▸ assigningTwice.toldBy_listing
  have hrequest : assigningTwice.CommandedBy request :=
    .update "t" (some ⟨"x", "y"⟩) [("a", "1"), ("b", "2"), ("a", "3")]
  obtain ⟨hbuild, hread, hcommand, -, -⟩ := fronts_agree assigningTwice hsettings htext
  have hquery : assigningTwice.query = query := by decide
  rw [hbuild, hquery] at hread hcommand
  exact ⟨hbuild.trans hquery, hread, hcommand request hrequest⟩

end Wish

end FlatTables
