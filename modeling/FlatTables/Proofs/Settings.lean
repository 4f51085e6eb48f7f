import FlatTables.Proofs.Payloads
import FlatTables.Query.Basic

/-!
# What settings make of a query

The last setting for a clause gives its value, and a clause without one keeps the value that it has
at the start. Only the payload is made of several settings: it is the one given last, or the one at
the start, with the values that were assigned since then (`PayloadFrom`).

So settings for different clauses may come in any order, since only the order of those for one
clause counts (`Query.build_eq_of_agree`). All this holds for settings of any number in any order
(`Query.build_clauses`).
-/

set_option autoImplicit false
set_option relaxedAutoImplicit false

namespace FlatTables

/-! ### The order of settings -/

namespace Setting

/-- The field of a descriptor that a setting is about. -/
def field : Setting → String
  | .table _ => "table"
  | .projection _ => "projection"
  | .columns _ => "projection"
  | .allColumns => "projection"
  | .filter _ _ => "filter"
  | .join _ _ _ => "join"
  | .orderBy _ _ => "sort"
  | .payload _ => "payload"
  | .set _ _ => "payload"

/-- The settings for any field are the same in both lists and come in the same order. -/
def Agree (settings others : List Setting) : Prop :=
  ∀ name, settings.filter (·.field = name) = others.filter (·.field = name)

end Setting

namespace Query

theorem build_append (start : Query) (settings others : List Setting) :
    start.build (settings ++ others) = (start.build settings).build others :=
  List.foldl_append

theorem apply_comm (query : Query) {first second : Setting} (hne : first.field ≠ second.field) :
    (query.apply first).apply second = (query.apply second).apply first := by
  cases first <;> cases second <;> first | rfl | exact absurd rfl hne

/-- A setting may be made after others that are about other fields. -/
theorem build_apply_comm {settings : List Setting} {setting : Setting}
    (hne : ∀ other ∈ settings, other.field ≠ setting.field) (query : Query) :
    (query.apply setting).build settings = (query.build settings).apply setting := by
  induction settings generalizing query with
  | nil => rfl
  | cons first settings ih =>
    have hfirst := hne first List.mem_cons_self
    have hrest := ih fun other hother ↦ hne other (List.mem_cons_of_mem _ hother)
    calc (query.apply setting).build (first :: settings)
        = ((query.apply setting).apply first).build settings := rfl
      _ = ((query.apply first).apply setting).build settings := by rw [apply_comm query hfirst]
      _ = (query.build (first :: settings)).apply setting := hrest _

/-- Only the order of the settings for one field counts. -/
theorem build_eq_of_agree {settings others : List Setting} (hagree : Setting.Agree settings others)
    (query : Query) : query.build settings = query.build others := by
  induction settings generalizing others query with
  | nil =>
    cases others with
    | nil => rfl
    | cons first others =>
      have hnone := hagree first.field
      simp at hnone
  | cons setting settings ih =>
    have hsame := hagree setting.field
    rw [List.filter_cons_of_pos (by simp)] at hsame
    obtain ⟨before, after, rfl, hbefore, -, hafter⟩ := List.filter_eq_cons_iff.mp hsame.symm
    have hne : ∀ other ∈ before, other.field ≠ setting.field := by simpa using hbefore
    have hrest : Setting.Agree settings (before ++ after) := by
      intro name
      have hname := hagree name
      rw [List.filter_append] at hname ⊢
      by_cases hsetting : setting.field = name
      · subst hsetting
        have hnone : before.filter (·.field = setting.field) = [] := by simpa using hne
        rw [hnone, List.nil_append, hafter]
      · rwa [List.filter_cons_of_neg (by simpa using hsetting),
          List.filter_cons_of_neg (by simpa using hsetting)] at hname
    calc query.build (setting :: settings)
        = (query.apply setting).build settings := rfl
      _ = (query.apply setting).build (before ++ after) := ih hrest _
      _ = ((query.build before).apply setting).build after := by
          rw [build_append, build_apply_comm hne]
      _ = query.build (before ++ setting :: after) := by rw [build_append]; rfl

end Query

/-! ### What a setting gives -/

namespace Setting

def table? : Setting → Option String
  | .table name => some name
  | _ => none

def projection? : Setting → Option Projection
  | .projection given => some given
  | .columns names => some (.columns names)
  | .allColumns => some .all
  | _ => none

def filter? : Setting → Option Filter
  | .filter column value => some ⟨column, value⟩
  | _ => none

def join? : Setting → Option Join
  | .join column other otherColumn => some ⟨column, other, otherColumn⟩
  | _ => none

def sort? : Setting → Option OrderBy
  | .orderBy column direction => some ⟨column, direction⟩
  | _ => none

def payload? : Setting → Option Payload
  | .payload given => some given
  | _ => none

def assignment? : Setting → Option (String × String)
  | .set column value => some (column, value)
  | _ => none

theorem payload?_eq_none_and_assignment?_eq_none_iff {setting : Setting} :
    setting.payload? = none ∧ setting.assignment? = none ↔ setting.field ≠ "payload" := by
  cases setting <;> simp [payload?, assignment?, field]

theorem forall_field_ne_payload_iff {settings : List Setting} :
    (∀ setting ∈ settings, setting.field ≠ "payload") ↔
      settings.filterMap payload? = [] ∧ settings.filterMap assignment? = [] := by
  simp only [List.filterMap_eq_nil_iff, ← payload?_eq_none_and_assignment?_eq_none_iff]
  exact ⟨fun hall ↦ ⟨fun setting hmem ↦ (hall setting hmem).1,
    fun setting hmem ↦ (hall setting hmem).2⟩,
    fun hall setting hmem ↦ ⟨hall.1 setting hmem, hall.2 setting hmem⟩⟩

end Setting

namespace Query

theorem build_concat (start : Query) (settings : List Setting) (setting : Setting) :
    start.build (settings ++ [setting]) = (start.build settings).apply setting :=
  build_append start settings [setting]

/-- A clause that each setting gives a value to or leaves keeps the last value given. -/
theorem build_lastGiven {α : Type} (clause : Query → Option α) (given? : Setting → Option α)
    (hstep : ∀ query setting, clause (query.apply setting) = (given? setting).or (clause query))
    (start : Query) (settings : List Setting) :
    clause (start.build settings) =
      (settings.filterMap given?).getLast?.or (clause start) := by
  induction settings using List.reverseRecOn with
  | nil => rfl
  | append_singleton settings setting ih =>
    rw [build_concat, hstep, ih, List.filterMap_append, List.getLast?_append, Option.or_assoc]
    cases hgiven : given? setting with
    | none => simp [hgiven]
    | some value => simp [hgiven]

end Query

/-! ### The payload -/

/-- The payload has the last of the values assigned to a column, and what another payload has where
none is assigned. -/
def Payload.Overlays (payload base : Payload) (assignments : List (String × String)) : Prop :=
  ∀ column, payload.get? column = (assignments.reverse.lookup column).or (base.get? column)

theorem Payload.overlays_nil (payload : Payload) : payload.Overlays payload [] :=
  fun _ ↦ rfl

theorem Payload.Overlays.insert {payload base : Payload} {assignments : List (String × String)}
    (hoverlays : payload.Overlays base assignments) (column value : String) :
    (payload.insert column value).Overlays base (assignments ++ [(column, value)]) := by
  intro other
  rw [get?_insert, List.reverse_append, List.reverse_singleton, List.singleton_append,
    lookup_cons_eq_ite, hoverlays other]
  by_cases hother : other = column
  · rw [if_pos hother, if_pos hother, Option.some_or]
  · rw [if_neg hother, if_neg hother]

/-- What settings make of a payload. -/
inductive PayloadFrom (start : Option Payload) : List Setting → Option Payload → Prop
  /-- No setting is about the payload. -/
  | untouched {settings : List Setting} (hgiven : settings.filterMap Setting.payload? = [])
      (hassigned : settings.filterMap Setting.assignment? = []) : PayloadFrom start settings start
  /-- Values are assigned, and no payload is given. -/
  | assigned {settings : List Setting} {payload : Payload}
      (hgiven : settings.filterMap Setting.payload? = [])
      (hassigned : settings.filterMap Setting.assignment? ≠ [])
      (hoverlays : payload.Overlays (start.getD .empty)
        (settings.filterMap Setting.assignment?)) : PayloadFrom start settings (some payload)
  /-- Values are assigned, or none, after the last payload that is given. -/
  | given (before : List Setting) (base : Payload) {after : List Setting} {payload : Payload}
      (hgiven : after.filterMap Setting.payload? = [])
      (hoverlays : payload.Overlays base (after.filterMap Setting.assignment?)) :
      PayloadFrom start (before ++ .payload base :: after) (some payload)

namespace PayloadFrom

variable {start payload : Option Payload} {settings : List Setting}

theorem eq_none_iff (hpayload : PayloadFrom start settings payload) :
    payload = none ↔ start = none ∧ ∀ setting ∈ settings, setting.field ≠ "payload" := by
  rw [Setting.forall_field_ne_payload_iff]
  cases hpayload with
  | untouched hgiven hassigned => simp [hgiven, hassigned]
  | assigned hgiven hassigned hoverlays => simp [hassigned]
  | given before base hgiven hoverlays => simp [Setting.payload?]

/-- A setting for another clause leaves the payload. -/
theorem concat_other (hpayload : PayloadFrom start settings payload) {setting : Setting}
    (hother : setting.field ≠ "payload") : PayloadFrom start (settings ++ [setting]) payload := by
  obtain ⟨hnone, hnothing⟩ := Setting.payload?_eq_none_and_assignment?_eq_none_iff.mpr hother
  cases hpayload with
  | untouched hgiven hassigned =>
    refine .untouched ?_ ?_
    · simp [hgiven, hnone]
    · simp [hassigned, hnothing]
  | assigned hgiven hassigned hoverlays =>
    refine .assigned ?_ ?_ ?_
    · simp [hgiven, hnone]
    · simp [hassigned, hnothing]
    · simpa [hnothing] using hoverlays
  | given before base hgiven hoverlays =>
    rw [List.append_assoc, List.cons_append]
    refine .given before base ?_ ?_
    · simp [hgiven, hnone]
    · simpa [hnothing] using hoverlays

/-- One more assignment is put over the others. -/
theorem concat_set (hpayload : PayloadFrom start settings payload) (column value : String) :
    PayloadFrom start (settings ++ [.set column value])
      (some ((payload.getD .empty).insert column value)) := by
  cases hpayload with
  | untouched hgiven hassigned =>
    refine .assigned ?_ ?_ ?_
    · simp [hgiven, Setting.payload?]
    · simp [Setting.assignment?]
    · rw [List.filterMap_append, hassigned]
      exact (Payload.overlays_nil _).insert column value
  | assigned hgiven hassigned hoverlays =>
    refine .assigned ?_ ?_ ?_
    · simp [hgiven, Setting.payload?]
    · simp [Setting.assignment?]
    · rw [List.filterMap_append]
      exact hoverlays.insert column value
  | given before base hgiven hoverlays =>
    rw [List.append_assoc, List.cons_append]
    refine .given before base ?_ ?_
    · simp [hgiven, Setting.payload?]
    · rw [List.filterMap_append]
      exact hoverlays.insert column value

end PayloadFrom

namespace Query

theorem payloadFrom_build (start : Query) (settings : List Setting) :
    PayloadFrom start.payload settings (start.build settings).payload := by
  induction settings using List.reverseRecOn with
  | nil => exact .untouched rfl rfl
  | append_singleton settings setting ih =>
    rw [build_concat]
    cases setting with
    | payload base => exact .given settings base rfl base.overlays_nil
    | set column value => exact ih.concat_set column value
    | _ => exact ih.concat_other (by simp [Setting.field])

theorem operation_build (start : Query) (settings : List Setting) :
    (start.build settings).operation = start.operation := by
  induction settings using List.reverseRecOn with
  | nil => rfl
  | append_singleton settings setting ih =>
    rw [build_concat, ← ih]
    cases setting <;> rfl

/-- What settings make of a query, whatever they are and in whatever order. The operation stays. The
other clauses are those that were given last, or those of the start. The payload is the one given
last, or that of the start, with the values assigned since then, and it is absent exactly if it was
at the start and no setting is about it. Settings in another order that keeps those for one field in
theirs make the same query. -/
theorem build_clauses (start : Query) (settings : List Setting) :
    let built := start.build settings
    built.operation = start.operation ∧
      built.table = (settings.filterMap Setting.table?).getLast?.or start.table ∧
      built.projection =
        (settings.filterMap Setting.projection?).getLast?.getD start.projection ∧
      built.filter = (settings.filterMap Setting.filter?).getLast?.or start.filter ∧
      built.join = (settings.filterMap Setting.join?).getLast?.or start.join ∧
      built.sort = (settings.filterMap Setting.sort?).getLast?.or start.sort ∧
      PayloadFrom start.payload settings built.payload ∧
      (built.payload = none ↔
        start.payload = none ∧ ∀ setting ∈ settings, setting.field ≠ "payload") ∧
      ∀ others, Setting.Agree settings others → start.build others = built := by
  intro built
  have hpayload : PayloadFrom start.payload settings built.payload :=
    start.payloadFrom_build settings
  refine ⟨start.operation_build settings, ?_, ?_, ?_, ?_, ?_, hpayload, hpayload.eq_none_iff,
    fun others hagree ↦ (build_eq_of_agree hagree start).symm⟩
  · exact build_lastGiven table Setting.table? (fun _ setting ↦ by cases setting <;> rfl) _ _
  · have hprojection : some built.projection =
        (settings.filterMap Setting.projection?).getLast?.or (some start.projection) :=
      build_lastGiven (fun query ↦ some query.projection) Setting.projection?
        (fun _ setting ↦ by cases setting <;> rfl) start settings
    rw [← Option.some_inj, hprojection]
    cases (settings.filterMap Setting.projection?).getLast? <;> rfl
  · exact build_lastGiven filter Setting.filter? (fun _ setting ↦ by cases setting <;> rfl) _ _
  · exact build_lastGiven join Setting.join? (fun _ setting ↦ by cases setting <;> rfl) _ _
  · exact build_lastGiven sort Setting.sort? (fun _ setting ↦ by cases setting <;> rfl) _ _

/-- Settings of which some come twice. The order of the second list is another one, but not for one
field. -/
theorem build_clauses_twiceSet :
    let settings : List Setting := [.set "a" "0", .columns ["a"], .payload (.ofList [("b", "1")]),
      .filter "x" "y", .set "b" "2", .allColumns, .set "c" "3", .set "b" "4", .filter "x" "z"]
    let others : List Setting := [.filter "x" "y", .filter "x" "z", .columns ["a"], .allColumns,
      .set "a" "0", .payload (.ofList [("b", "1")]), .set "b" "2", .set "c" "3", .set "b" "4"]
    let start := Query.on .insert "t"
    start.build others =
        { start with
          filter := some ⟨"x", "z"⟩
          payload := some (.ofList [("b", "4"), ("c", "3")]) } ∧
      start.build settings = start.build others := by
  intro settings others start
  have hagree : Setting.Agree settings others := by
    intro name
    by_cases hpayload : "payload" = name
    · subst hpayload
      decide
    · by_cases hfilter : "filter" = name
      · subst hfilter
        decide
      · by_cases hprojection : "projection" = name
        · subst hprojection
          decide
        · simp [settings, others, Setting.field, hpayload, hfilter, hprojection]
  obtain ⟨-, -, -, -, -, -, -, -, hreordered⟩ := build_clauses start settings
  exact ⟨by decide, (hreordered others hagree).symm⟩

end Query

end FlatTables
