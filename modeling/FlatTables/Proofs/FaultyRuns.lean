import FlatTables.Proofs.FileWrites
import FlatTables.Procedure

/-!
# Running procedures among failures

The files of a machine can refuse an access for reasons of their own, such as a full disk.
`Procedure.runUnder` carries a procedure out while a list says, access by access, which one is
refused and how; without refusals it is `Procedure.run` (`runUnder_nil`). `Procedure.step` does the
next thing of a procedure only, so that several procedures can take turns on one disk. A refused
write leaves the disk as it was.

`Procedure.Meets` says what holds of every write that a procedure may come to and of every result
it may end with, whatever it reads and whichever of its accesses fail. It is proved along the
procedure (`Meets.andThen`) and kept by every step (`Meets.step`).
-/

set_option autoImplicit false
set_option relaxedAutoImplicit false

namespace FlatTables

namespace Disk

/-- Reads a file, unless the access is refused. -/
def readUnder (disk : Disk) (refusal : Option FileFailure) (path : String) :
    Except FileFailure ByteArray :=
  match refusal with
  | some failure => .error failure
  | none => disk.read path

/-- Writes a file, unless the access is refused. -/
def writeUnder (disk : Disk) (refusal : Option FileFailure) (path : String)
    (content : ByteArray) : Except FileFailure Disk :=
  match refusal with
  | some failure => .error failure
  | none => disk.write path content

theorem write_of_writeUnder {disk changed : Disk} {refusal : Option FileFailure} {path : String}
    {content : ByteArray} (hwrite : disk.writeUnder refusal path content = .ok changed) :
    disk.write path content = .ok changed := by
  cases refusal with
  | none => exact hwrite
  | some failure => cases hwrite

end Disk

namespace Procedure

variable {α β γ : Type}

/-! ### Laws of sequences -/

theorem bind_eq_andThen (first : Procedure α) (following : α → Procedure β) :
    first >>= following = first.andThen following := rfl

theorem pure_eq_done (result : α) : (pure result : Procedure α) = .done result := rfl

@[simp] theorem done_andThen (result : α) (following : α → Procedure β) :
    (Procedure.done result).andThen following = following result := rfl

theorem andThen_assoc (first : Procedure α) (second : α → Procedure β) (third : β → Procedure γ) :
    (first.andThen second).andThen third =
      first.andThen fun result ↦ (second result).andThen third := by
  induction first with
  | done result => rfl
  | report event next ih => exact congrArg (Procedure.report event) ih
  | readFile path next ih => exact congrArg (Procedure.readFile path) (funext ih)
  | writeFile path content next ih =>
    exact congrArg (Procedure.writeFile path content) (funext ih)
  | readInput next ih => exact congrArg Procedure.readInput (funext ih)

/-! ### Runs -/

/-- Carries a procedure out on a disk while the listed refusals meet its reads and writes, one
each and in order; when the list is used up nothing is refused any more. -/
def runUnder (input : ByteArray) : Procedure α → List (Option FileFailure) → Disk → Outcome α
  | .done result, _, disk => ⟨result, disk, []⟩
  | .report event next, refusals, disk =>
    let outcome := next.runUnder input refusals disk
    { outcome with events := event :: outcome.events }
  | .readFile path next, refusals, disk =>
    (next (disk.readUnder refusals.head?.join path)).runUnder input refusals.tail disk
  | .writeFile path content next, refusals, disk =>
    match disk.writeUnder refusals.head?.join path content with
    | .ok changed => (next (.ok ())).runUnder input refusals.tail changed
    | .error failure => (next (.error failure)).runUnder input refusals.tail disk
  | .readInput next, refusals, disk => (next input).runUnder input refusals disk

theorem runUnder_nil (input : ByteArray) (procedure : Procedure α) :
    ∀ disk : Disk, procedure.runUnder input [] disk = procedure.run input disk := by
  induction procedure with
  | done result => intro disk; rfl
  | report event next ih =>
    intro disk
    simp only [runUnder, run, ih]
  | readFile path next ih => intro disk; exact ih _ disk
  | writeFile path content next ih =>
    intro disk
    have hwrite : disk.writeUnder ([] : List (Option FileFailure)).head?.join path content =
        disk.write path content := rfl
    rw [runUnder, run, hwrite]
    cases disk.write path content with
    | ok changed => exact ih (.ok ()) changed
    | error failure => exact ih (.error failure) disk
  | readInput next ih => intro disk; exact ih input disk

theorem run_andThen (input : ByteArray) (first : Procedure α) (following : α → Procedure β) :
    ∀ disk : Disk, (first.andThen following).run input disk =
      let before := first.run input disk
      let after := (following before.result).run input before.disk
      { after with events := before.events ++ after.events } := by
  induction first with
  | done result => intro disk; rfl
  | report event next ih =>
    intro disk
    simp only [andThen, run, ih, List.cons_append]
  | readFile path next ih => intro disk; exact ih _ disk
  | writeFile path content next ih =>
    intro disk
    simp only [andThen, run]
    cases disk.write path content with
    | ok changed => exact ih (.ok ()) changed
    | error failure => exact ih (.error failure) disk
  | readInput next ih => intro disk; exact ih input disk

theorem run_andThen_congr {input : ByteArray} {disk : Disk} {first : Procedure α}
    {following other : α → Procedure β}
    (hsame : (following (first.run input disk).result).run input (first.run input disk).disk =
      (other (first.run input disk).result).run input (first.run input disk).disk) :
    (first.andThen following).run input disk = (first.andThen other).run input disk := by
  simp only [run_andThen, hsame]

theorem run_andThen_of_eq {input : ByteArray} {disk : Disk} {first : Procedure α}
    {following : α → Procedure β} {result : α}
    (hfirst : first.run input disk = ⟨result, disk, []⟩) :
    (first.andThen following).run input disk = (following result).run input disk := by
  rw [run_andThen, hfirst]
  rfl

theorem run_logAll (input : ByteArray) (disk : Disk) (events : List Event) :
    (logAll events).run input disk = ⟨(), disk, events⟩ := by
  induction events with
  | nil => rfl
  | cons event events ih =>
    have hcons : logAll (event :: events) = .report event (logAll events) := rfl
    rw [hcons, run, ih]

/-- A result that is worked out in the end changes nothing else. -/
theorem runUnder_map (input : ByteArray) (procedure : Procedure α) (map : α → β) :
    ∀ (refusals : List (Option FileFailure)) (disk : Disk),
      (procedure.andThen fun result ↦ .done (map result)).runUnder input refusals disk =
        ⟨map (procedure.runUnder input refusals disk).result,
          (procedure.runUnder input refusals disk).disk,
          (procedure.runUnder input refusals disk).events⟩ := by
  induction procedure with
  | done result => intro refusals disk; rfl
  | report event next ih =>
    intro refusals disk
    simp only [andThen, runUnder, ih]
  | readFile path next ih => intro refusals disk; exact ih _ refusals.tail disk
  | writeFile path content next ih =>
    intro refusals disk
    simp only [andThen, runUnder]
    cases disk.writeUnder refusals.head?.join path content with
    | ok changed => exact ih (.ok ()) refusals.tail changed
    | error failure => exact ih (.error failure) refusals.tail disk
  | readInput next ih => intro refusals disk; exact ih input refusals disk

/-- Reports are added to those of what follows, and use up no refusal. -/
theorem runUnder_logAll_andThen (input : ByteArray) (events : List Event)
    (following : Unit → Procedure α) (refusals : List (Option FileFailure)) (disk : Disk) :
    ((logAll events).andThen following).runUnder input refusals disk =
      { (following ()).runUnder input refusals disk with
        events := events ++ ((following ()).runUnder input refusals disk).events } := by
  induction events with
  | nil => rfl
  | cons event events ih =>
    have hcons : (logAll (event :: events)).andThen following =
        .report event ((logAll events).andThen following) := rfl
    rw [hcons, runUnder, ih, List.cons_append]

/-- Does the next thing of a procedure. Gives what is left of it, the disk, and the location that
was written, if one was. -/
def step (input : ByteArray) (refusal : Option FileFailure) (disk : Disk) :
    Procedure α → Procedure α × Disk × Option Location
  | .done result => (.done result, disk, none)
  | .report _ next => (next, disk, none)
  | .readFile path next => (next (disk.readUnder refusal path), disk, none)
  | .writeFile path content next =>
    match disk.writeUnder refusal path content with
    | .ok changed => (next (.ok ()), changed, (changed.locate path).toOption)
    | .error failure => (next (.error failure), disk, none)
  | .readInput next => (next input, disk, none)

/-! ### What holds of every write and every result -/

/-- Whatever is read and whichever accesses fail, the procedure as it stands at each of its writes
meets one condition, and its result meets another. -/
def Meets (writing : Procedure α → Prop) (ending : α → Prop) : Procedure α → Prop
  | .done result => ending result
  | .report _ next => next.Meets writing ending
  | .readFile _ next => ∀ content, (next content).Meets writing ending
  | .writeFile path content next =>
    writing (.writeFile path content next) ∧ ∀ outcome, (next outcome).Meets writing ending
  | .readInput next => ∀ content, (next content).Meets writing ending

variable {writing : Procedure α → Prop} {ending : α → Prop}

theorem Meets.andThen {writing' : Procedure β → Prop} {ending' : β → Prop}
    {first : Procedure α} {following : α → Procedure β} (hfirst : first.Meets writing ending)
    (hwriting : ∀ rest, writing rest → writing' (rest.andThen following))
    (hfollowing : ∀ result, ending result → (following result).Meets writing' ending') :
    (first.andThen following).Meets writing' ending' := by
  induction first with
  | done result => exact hfollowing result hfirst
  | report event next ih => exact ih hfirst
  | readFile path next ih => exact fun content ↦ ih content (hfirst content)
  | writeFile path content next ih =>
    exact ⟨hwriting _ hfirst.1, fun outcome ↦ ih outcome (hfirst.2 outcome)⟩
  | readInput next ih => exact fun content ↦ ih content (hfirst content)

theorem Meets.mono {writing' : Procedure α → Prop} {ending' : α → Prop} {procedure : Procedure α}
    (hprocedure : procedure.Meets writing ending) (hwriting : ∀ rest, writing rest → writing' rest)
    (hending : ∀ result, ending result → ending' result) : procedure.Meets writing' ending' := by
  induction procedure with
  | done result => exact hending result hprocedure
  | report event next ih => exact ih hprocedure
  | readFile path next ih => exact fun content ↦ ih content (hprocedure content)
  | writeFile path content next ih =>
    exact ⟨hwriting _ hprocedure.1, fun outcome ↦ ih outcome (hprocedure.2 outcome)⟩
  | readInput next ih => exact fun content ↦ ih content (hprocedure content)

theorem Meets.step {procedure : Procedure α} (hprocedure : procedure.Meets writing ending)
    (input : ByteArray) (refusal : Option FileFailure) (disk : Disk) :
    (procedure.step input refusal disk).1.Meets writing ending := by
  cases procedure with
  | done result => exact hprocedure
  | report event next => exact hprocedure
  | readFile path next => exact hprocedure _
  | writeFile path content next =>
    simp only [Procedure.step]
    cases disk.writeUnder refusal path content with
    | ok changed => exact hprocedure.2 (.ok ())
    | error failure => exact hprocedure.2 (.error failure)
  | readInput next => exact hprocedure input

/-- A procedure that writes nothing leaves the disk as it is, whatever is refused. -/
theorem Meets.runUnder {procedure : Procedure α}
    (hprocedure : procedure.Meets (fun _ ↦ False) ending) (input : ByteArray) :
    ∀ (refusals : List (Option FileFailure)) (disk : Disk),
      (procedure.runUnder input refusals disk).disk = disk ∧
        ending (procedure.runUnder input refusals disk).result := by
  induction procedure with
  | done result => exact fun _ _ ↦ ⟨rfl, hprocedure⟩
  | report event next ih => exact fun refusals disk ↦ ih hprocedure refusals disk
  | readFile path next ih => exact fun refusals disk ↦ ih _ (hprocedure _) refusals.tail disk
  | writeFile path content next ih => exact hprocedure.1.elim
  | readInput next ih => exact fun refusals disk ↦ ih input (hprocedure input) refusals disk

theorem meets_logAll {writing : Procedure Unit → Prop} (events : List Event) :
    (logAll events).Meets writing fun _ ↦ True := by
  induction events with
  | nil => trivial
  | cons event events ih => exact ih

/-- A step leaves the disk as it is or writes a file where no directory was. -/
theorem step_cases (input : ByteArray) (refusal : Option FileFailure) (disk : Disk)
    (procedure : Procedure α) :
    ((procedure.step input refusal disk).2.1 = disk ∧
        (procedure.step input refusal disk).2.2 = none) ∨
      ∃ path content next location, procedure = .writeFile path content next ∧
        (procedure.step input refusal disk).2.2 = some location ∧ location ≠ [] ∧
        disk.entry? location ≠ some .directory ∧
        (procedure.step input refusal disk).2.1 = disk.put location (.file content) ∧
        (procedure.step input refusal disk).2.1.locate path = .ok location := by
  cases procedure with
  | done result => exact Or.inl ⟨rfl, rfl⟩
  | report event next => exact Or.inl ⟨rfl, rfl⟩
  | readFile path next => exact Or.inl ⟨rfl, rfl⟩
  | readInput next => exact Or.inl ⟨rfl, rfl⟩
  | writeFile path content next =>
    simp only [step]
    cases hwrite : disk.writeUnder refusal path content with
    | error failure => exact Or.inl ⟨rfl, rfl⟩
    | ok changed =>
      obtain ⟨location, hlocation, hplace, hchanged, hlocate⟩ :=
        Disk.write_eq_ok (Disk.write_of_writeUnder hwrite)
      exact Or.inr ⟨path, content, next, location, rfl, congrArg Except.toOption hlocate,
        hlocation, hplace, hchanged, hlocate⟩

end Procedure

end FlatTables
