import FlatTables.Proofs.JoinedHeaders
import FlatTables.Proofs.NamedColumns
import FlatTables.Proofs.SelectRuns
import FlatTables.Proofs.StableOrder

/-!
# What a select answers

The answer of a select is that of relational algebra on the loaded tables
(`Query.relational_answer`). It draws on the rows of its table, or with a join on the pairs of rows
with one value in the two columns (`Query.Source`). Of these it keeps those with the value of the
filter, puts them in the one order that is asked for (`Query.Arranged`), and reads off the columns.
Columns are named throughout, in the header of the join if there is one; no name comes twice there.
-/

set_option autoImplicit false
set_option relaxedAutoImplicit false

namespace FlatTables

/-- The columns that a projection of a header shows. -/
def Projection.shown (header : List String) : Projection → List String
  | .all => header
  | .columns names => names

namespace Query

variable {input : ByteArray} {config : Config} {disk : Disk} {query : Query} {name : String}
  {header : List String} {rows : List Row}

/-! ### Rows to select from -/

/-- The header and the rows that a select draws on: those of its table, or with a join the pairs of
rows that have one value in the two columns, in left-major order. -/
inductive Source (input : ByteArray) (config : Config) (disk : Disk) (name : String) :
    Option Join → List String → List Row → Prop
  | table {table : Table}
      (htable : ((Table.loadNamed config name).run input disk).result = .ok table) :
      Source input config disk name none table.sheet.header table.sheet.rows
  | join {join : Join} {left right : Table}
      (hleft : ((Table.loadNamed config name).run input disk).result = .ok left)
      (hright : ((Table.loadNamed config join.table).run input disk).result = .ok right)
      (hcolumn : join.column ∈ left.sheet.header)
      (hother : join.otherColumn ∈ right.sheet.header) :
      Source input config disk name (some join)
        (Sheet.joinHeader left.sheet.header right.sheet.header)
        (((left.sheet.rows.product right.sheet.rows).filter fun pair ↦
          pair.1.valueIn left.sheet.header join.column =
            pair.2.valueIn right.sheet.header join.otherColumn).map fun pair ↦ pair.1 ++ pair.2)

/-- The rows of a source are as wide as its header, and no name in the header comes twice. -/
theorem exists_joined_of_source {join : Option Join}
    (hsource : Source input config disk name join header rows) :
    header.Nodup ∧ (∀ row ∈ rows, row.length = header.length) ∧
      ∃ table sheet, Table.stored config disk name = .ok table ∧
        joined config disk table join = .ok sheet ∧ sheet.header = header ∧ sheet.rows = rows := by
  cases hsource with
  | @table table htable =>
    have hsound := (Table.keptUnder_of_loadNamed htable).1.sound
    rw [(yields_loadNamed name).1] at htable
    exact ⟨hsound.header_nodup, hsound.rows_length, table, table.sheet, htable, rfl, rfl, rfl⟩
  | @join join left right hleft hright hcolumn hother =>
    have hleftSound := (Table.keptUnder_of_loadNamed hleft).1.sound
    have hrightSound := (Table.keptUnder_of_loadNamed hright).1.sound
    rw [(yields_loadNamed _).1] at hleft hright
    have hpairs : ∀ pair ∈ left.sheet.rows.product right.sheet.rows,
        pair.1.length = left.sheet.header.length ∧ pair.2.length = right.sheet.header.length := by
      intro pair hpair
      obtain ⟨hfirst, hsecond⟩ := List.mem_product.mp hpair
      exact ⟨hleftSound.rows_length _ hfirst, hrightSound.rows_length _ hsecond⟩
    have hjoined : joined config disk left (some join) =
        (left.sheet.join right.sheet join.column join.otherColumn).mapError
          .ofUnknownColumn := by
      rw [joined, hright]
      rfl
    rw [Sheet.join_eq hcolumn hother] at hjoined
    refine ⟨Sheet.nodup_joinHeader _ hleftSound.header_nodup, ?_, left, _, hleft, hjoined, rfl, ?_⟩
    · intro row hrow
      obtain ⟨pair, hpair, rfl⟩ := List.mem_map.mp hrow
      obtain ⟨hfirst, hsecond⟩ := hpairs pair (List.mem_of_mem_filter hpair)
      rw [List.length_append, Sheet.length_joinHeader, hfirst, hsecond]
    · refine List.map_congr_left fun pair hpair ↦ ?_
      obtain ⟨hfirst, hsecond⟩ := hpairs pair (List.mem_of_mem_filter hpair)
      rw [Row.fit_of_length_eq hfirst, Row.fit_of_length_eq hsecond]

/-! ### The order of rows -/

/-- Rows in the order that is asked for. Ascending order is the stable order by the places of the
fields of a column. In descending order the rows with a field are turned around, and those without
stay behind them as they were. -/
def Arranged (header : List String) (order : Option OrderBy) (rows arranged : List Row) : Prop :=
  match order with
  | none => arranged = rows
  | some ⟨column, direction⟩ =>
    ∃ ascending, StablyAscending (fun row ↦ fieldPlace (row.valueIn header column)) rows ascending ∧
      match direction with
      | .ascending => arranged = ascending
      | .descending => arranged =
        (ascending.filter fun row ↦ row.valueIn header column ≠ "").reverse ++
          rows.filter fun row ↦ row.valueIn header column = ""

/-- The order of a column that the header has is the one that rows are sorted in. -/
theorem arranged_iff {order : OrderBy} (hcolumn : order.column ∈ header) (arranged : List Row) :
    Arranged header (some order) rows arranged ↔
      arranged = Sheet.sortRows (header.idxOf order.column) order.direction rows := by
  obtain ⟨column, direction⟩ := order
  have hsorted := Sheet.stablyAscending_sortRows (header.idxOf column) rows
  have hreversed := Sheet.sortRows_descending (header.idxOf column) rows
  simp only [Row.field_idxOf hcolumn] at hsorted hreversed
  constructor
  · rintro ⟨ascending, hascending, harranged⟩
    obtain rfl := hsorted.eq hascending
    cases direction with
    | ascending => exact harranged
    | descending => exact harranged.trans hreversed.symm
  · rintro rfl
    refine ⟨_, hsorted, ?_⟩
    cases direction with
    | ascending => rfl
    | descending => exact hreversed

/-- Ordering the kept rows gives the arrangement that is asked for, and there is no other. -/
theorem exists_arranged {sheet : Sheet}
    (hsort : ∀ order ∈ query.sort, order.column ∈ sheet.header) :
    ∃ arranged, (∀ other, Arranged sheet.header query.sort sheet.rows other ↔ other = arranged) ∧
      arranged.Perm sheet.rows ∧
      query.arrange sheet = { sheet with rows := arranged }.project query.projection := by
  unfold arrange
  cases horder : query.sort with
  | none => exact ⟨sheet.rows, fun _ ↦ Iff.rfl, List.Perm.refl _, rfl⟩
  | some order =>
    have hcolumn := hsort order horder
    refine ⟨_, arranged_iff hcolumn, Sheet.sortRows_perm _ _ _, ?_⟩
    dsimp only
    rw [Sheet.sort_eq hcolumn]
    rfl

/-! ### The answer -/

theorem kept_eq {sheet : Sheet} {filter : Option Filter}
    (hfilter : ∀ condition ∈ filter, condition.column ∈ sheet.header) :
    kept sheet filter = .ok { sheet with
      rows := sheet.rows.filter fun row ↦ row.meets sheet.header filter } := by
  cases filter with
  | none =>
    have hall : (sheet.rows.filter fun row ↦ row.meets sheet.header none) = sheet.rows :=
      List.filter_eq_self.mpr fun row _ ↦ rfl
    rw [hall]
    rfl
  | some condition =>
    rw [kept, Sheet.filter_eq (hfilter condition rfl)]
    rfl

theorem zip_fit_map (shown : List String) (value : String → String) :
    shown.zip ((Row.fit (shown.map value) shown.length).map FieldValue.text) =
      shown.map fun column ↦ (column, .text (value column)) := by
  rw [Row.fit_of_length_eq (List.length_map _), List.map_map]
  exact List.map_prod_left_eq_zip.symm

/-- The answer for a sheet shows, under each column asked for, the values of the rows there. -/
theorem map_ofSheet_project {sheet : Sheet} {projection : Projection} (hnodup : sheet.header.Nodup)
    (hwidth : ∀ row ∈ sheet.rows, row.length = sheet.header.length)
    (hshown : ∀ column ∈ projection.shown sheet.header, column ∈ sheet.header) :
    (sheet.project projection).map Answer.ofSheet = .ok {
      operation := .select
      columns := projection.shown sheet.header
      rows := sheet.rows.map fun row ↦ (projection.shown sheet.header).map fun column ↦
        (column, .text (row.valueIn sheet.header column))
      affected := sheet.rows.length } := by
  cases projection with
  | all =>
    have hrows : sheet.answerRows = sheet.rows.map fun row ↦ sheet.header.map fun column ↦
        (column, .text (row.valueIn sheet.header column)) := by
      refine List.map_congr_left fun row hrow ↦ ?_
      rw [← zip_fit_map, Row.map_valueIn hnodup (hwidth row hrow)]
    have hanswer : (sheet.project .all).map Answer.ofSheet = .ok (.ofSheet sheet) := rfl
    rw [hanswer, Answer.ofSheet, hrows]
    rfl
  | columns names =>
    have hrows : (sheet.rows.map fun row ↦ names.map (row.valueIn sheet.header)).map
          (fun row ↦ names.zip ((Row.fit row names.length).map FieldValue.text)) =
        sheet.rows.map fun row ↦ names.map fun column ↦
          (column, .text (row.valueIn sheet.header column)) := by
      rw [List.map_map]
      exact List.map_congr_left fun row _ ↦ zip_fit_map names _
    have hnames : ∀ name ∈ names, name ∈ sheet.header := hshown
    rw [Sheet.project_eq hnames, Except.map, Answer.ofSheet, Sheet.answerRows, hrows,
      List.length_map]
    rfl

/-- A select whose tables load and whose columns are there is answered by relational algebra. There
is one arrangement of the rows that the filter keeps in the order asked for, and the answer shows it
under the columns asked for, in their order, a column that is asked for twice coming twice. -/
theorem relational_answer (hselect : query.operation = .select) (htarget : query.table = some name)
    (hsource : Source input config disk name query.join header rows)
    (hfilter : ∀ condition ∈ query.filter, condition.column ∈ header)
    (hsort : ∀ order ∈ query.sort, order.column ∈ header)
    (hshown : ∀ column ∈ query.projection.shown header, column ∈ header) :
    header.Nodup ∧
    ∃ arranged,
      (∀ other,
        Arranged header query.sort (rows.filter fun row ↦ row.meets header query.filter) other ↔
          other = arranged) ∧
      ((query.execute config).run input disk).result = .ok {
        operation := .select
        columns := query.projection.shown header
        rows := arranged.map fun row ↦ (query.projection.shown header).map fun column ↦
          (column, .text (row.valueIn header column))
        affected := arranged.length } := by
  obtain ⟨hnodup, hwidth, table, sheet, hstored, hjoined, rfl, rfl⟩ :=
    exists_joined_of_source hsource
  let restricted : Sheet :=
    { sheet with rows := sheet.rows.filter fun row ↦ row.meets sheet.header query.filter }
  have hsorted : ∀ order ∈ query.sort, order.column ∈ restricted.header := hsort
  obtain ⟨arranged, honly, hperm, harrange⟩ := exists_arranged hsorted
  let ordered : Sheet := { sheet with rows := arranged }
  have hrows : ∀ row ∈ ordered.rows, row.length = ordered.header.length := fun row hrow ↦
    hwidth row (List.mem_of_mem_filter (hperm.mem_iff.mp hrow))
  have hunique : ordered.header.Nodup := hnodup
  obtain ⟨projected, hproject, hanswer⟩ :=
    exists_of_map_eq_ok (map_ofSheet_project hunique hrows hshown)
  have hselected : query.selected config disk = .ok (.ofSheet projected) :=
    selected_eq_ok htarget hstored hjoined (kept_eq hfilter) (harrange.trans hproject)
  refine ⟨hnodup, arranged, honly, ?_⟩
  rw [(yields_execute hselect).1, hselected, hanswer]

/-! ### Orders and customers -/

/-- A disk with the files of two tables. -/
def ordersDisk : Disk :=
  { entries := [(["orders.csv"],
        .file "id,customer,amount\n1,7,+30\n2,8,4\n3,7,\n4,9,5\n5,7,4\n6,7,030\n".toUTF8),
      (["customers.csv"], .file "id,name\n7,Ada\n8,Bob\n".toUTF8)] }

def orders : Table :=
  ⟨"./orders.csv", ',', "id", ⟨"orders", ["id", "customer", "amount"],
    [["1", "7", "+30"], ["2", "8", "4"], ["3", "7", ""], ["4", "9", "5"], ["5", "7", "4"],
      ["6", "7", "030"]]⟩⟩

def customers : Table :=
  ⟨"./customers.csv", ',', "id", ⟨"customers", ["id", "name"], [["7", "Ada"], ["8", "Bob"]]⟩⟩

/-- The orders of Ada, the greatest amount first, with her id and twice her name. -/
def ordersOfAda : Query :=
  { operation := .select, table := some "orders", join := some ⟨"customer", "customers", "id"⟩,
    filter := some ⟨"name", "Ada"⟩, sort := some ⟨"amount", .descending⟩,
    projection := .columns ["name", "id", "amount", "id_right", "name"] }

/-- The header of the join. -/
def pairsHeader : List String :=
  ["id", "customer", "amount", "id_right", "name"]

/-- The rows of the join. -/
def pairs : List Row :=
  [["1", "7", "+30", "7", "Ada"], ["2", "8", "4", "8", "Bob"], ["3", "7", "", "7", "Ada"],
    ["5", "7", "4", "7", "Ada"], ["6", "7", "030", "7", "Ada"]]

def adaPairs : List Row :=
  [["1", "7", "+30", "7", "Ada"], ["3", "7", "", "7", "Ada"], ["5", "7", "4", "7", "Ada"],
    ["6", "7", "030", "7", "Ada"]]

def adaAscending : List Row :=
  [["5", "7", "4", "7", "Ada"], ["1", "7", "+30", "7", "Ada"], ["6", "7", "030", "7", "Ada"],
    ["3", "7", "", "7", "Ada"]]

def adaArranged : List Row :=
  [["6", "7", "030", "7", "Ada"], ["1", "7", "+30", "7", "Ada"], ["5", "7", "4", "7", "Ada"],
    ["3", "7", "", "7", "Ada"]]

/-- The two orders of thirty stand in reverse, and the one without an amount stands last. -/
theorem relational_answer_ordersOfAda :
    ((ordersOfAda.execute {}).run .empty ordersDisk).result = .ok {
      operation := .select
      columns := ["name", "id", "amount", "id_right", "name"]
      rows := [["Ada", "6", "030", "7", "Ada"], ["Ada", "1", "+30", "7", "Ada"],
        ["Ada", "5", "4", "7", "Ada"], ["Ada", "3", "", "7", "Ada"]].map fun values ↦
          ["name", "id", "amount", "id_right", "name"].zip (values.map .text)
      affected := 4 } := by
  have horders : ((Table.loadNamed {} "orders").run .empty ordersDisk).result = .ok orders := rfl
  have hcustomers : ((Table.loadNamed {} "customers").run .empty ordersDisk).result =
      .ok customers := rfl
  have hheader : Sheet.joinHeader orders.sheet.header customers.sheet.header = pairsHeader := by
    decide
  have hpairs : ((orders.sheet.rows.product customers.sheet.rows).filter fun pair ↦
      pair.1.valueIn orders.sheet.header "customer" =
        pair.2.valueIn customers.sheet.header "id").map (fun pair ↦ pair.1 ++ pair.2) = pairs := by
    decide
  have hsource : Source .empty {} ordersDisk "orders" ordersOfAda.join pairsHeader pairs := by
    rw [← hheader, ← hpairs]
    exact .join horders hcustomers (by decide) (by decide)
  have hkept : (pairs.filter fun row ↦ row.meets pairsHeader ordersOfAda.filter) =
      adaPairs := by
    decide
  obtain ⟨-, arranged, honly, hresult⟩ :=
    relational_answer rfl rfl hsource (by decide) (by decide) (by decide)
  rw [hkept] at honly
  have harranged : adaArranged = arranged :=
    (honly _).mp ⟨adaAscending, by decide +kernel, rfl⟩
  rw [hresult, ← harranged]
  rfl

end Query

end FlatTables
