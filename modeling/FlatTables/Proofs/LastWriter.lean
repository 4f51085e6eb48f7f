import FlatTables.Proofs.Changes

/-!
# Tables and queries that share files

Any number of parties work on the files of one disk and take turns in any order. A party loads a
table, changes it, writes it, copies it or drops it, or carries out a query (`Task`). It does one
thing at a time, so others may come between its reading and its writing, and each of its accesses
may be refused (`World.move`). What a party holds of a file can be out of date.

Files are whole nevertheless (`World.lastWriter_of_play`). After any moves, a file is as it was at
first, or it is the text of the table that the last party to write it held when it did. Such a file
loads under both arity policies, and gives the header and the rows of this table with nothing
filled up.

Every party is `Dutiful`: whatever it reads and whichever of its accesses fail, it writes the texts
of sound tables only, and keeps a sound table or none. A move preserves this for all parties
(`World.dutiful_move`), and with it, for all files, what is said above (`World.lastWritten_move`).
-/

set_option autoImplicit false
set_option relaxedAutoImplicit false

namespace FlatTables

/-! ### Procedures that write tables -/

/-- The procedure is about to write the file of the table. It writes nothing after that, and its
result is as told whatever comes of the write. -/
def Procedure.Persists {α : Type} (table : Table) (ending : α → Prop) (rest : Procedure α) : Prop :=
  ∃ following, rest = table.persist.andThen following ∧
    ∀ written, (following written).Meets (fun _ ↦ False) ending

section Persists

variable {α β : Type} {table : Table} {ending : α → Prop} {rest : Procedure α}

theorem Procedure.Persists.andThen {ending' : β → Prop} {following : α → Procedure β}
    (hrest : rest.Persists table ending)
    (hfollowing : ∀ result, ending result → (following result).Meets (fun _ ↦ False) ending') :
    (rest.andThen following).Persists table ending' := by
  obtain ⟨between, rfl, hbetween⟩ := hrest
  refine ⟨fun written ↦ (between written).andThen following, andThen_assoc _ _ _, fun written ↦ ?_⟩
  exact (hbetween written).andThen (fun _ h ↦ h.elim) hfollowing

theorem Procedure.Persists.mono {ending' : α → Prop} (hrest : rest.Persists table ending)
    (hending : ∀ result, ending result → ending' result) : rest.Persists table ending' := by
  obtain ⟨following, hrest, hfollowing⟩ := hrest
  exact ⟨following, hrest, fun written ↦ (hfollowing written).mono (fun _ h ↦ h) hending⟩

theorem Procedure.Persists.meets {writing : Procedure α → Prop} (hrest : rest.Persists table ending)
    (hwriting : writing rest) : rest.Meets writing ending := by
  obtain ⟨following, rfl, hfollowing⟩ := hrest
  rw [Table.persist_eq] at hwriting ⊢
  refine ⟨hwriting, fun outcome ↦ ?_⟩
  cases outcome with
  | error failure => exact (hfollowing (.error (.file failure))).mono (fun _ h ↦ h.elim) fun _ h ↦ h
  | ok _ => exact (hfollowing (.ok ())).mono (fun _ h ↦ h.elim) fun _ h ↦ h

/-- A procedure that is about to write a table writes the text of the table to its path. -/
theorem Procedure.Persists.eq_of_writeFile {path : String} {content : ByteArray}
    {next : Except FileFailure Unit → Procedure α}
    (hwrite : (Procedure.writeFile path content next).Persists table ending) :
    path = table.path ∧ content = table.text.toUTF8 := by
  obtain ⟨following, hrest, -⟩ := hwrite
  rw [Table.persist_eq] at hrest
  cases hrest
  exact ⟨rfl, rfl⟩

end Persists

section Tables

variable {config : Config} {table : Table}

/-- Loading writes nothing and gives a sound table. -/
theorem Table.meets_load (config : Config) (path : String) :
    (load config path).Meets (fun _ ↦ False) fun loaded ↦
      ∀ table, loaded = .ok table → table.KeptUnder config := by
  rw [load_eq]
  intro content
  refine (Procedure.meets_logAll _).andThen (fun _ h ↦ h) fun _ _ ↦ ?_
  exact fun table htable ↦ (keptUnder_of_ofContent htable).1

/-- A change of a sound table writes the text of the changed table at most, which is sound, and
then ends with this table. -/
theorem Change.meets_on (htable : table.KeptUnder config) (change : Change) :
    (change.on table).Meets
      (fun rest ↦ ∃ changed, changed.KeptUnder config ∧
        rest.Persists changed fun found ↦ found.1 = changed)
      fun found ↦ found.1.KeptUnder config := by
  rw [on_eq]
  cases hworked : change.workedOut table with
  | error fault => exact htable
  | ok worked =>
    obtain ⟨changed, number⟩ := worked
    have hchanged := (keptUnder_of_workedOut htable hworked).1
    have hconcluded : ∀ written, (change.concluded table.sheet.name changed number written).Meets
        (fun _ ↦ False) fun found ↦ found.1 = changed := by
      intro written
      cases written <;> rfl
    dsimp only
    split
    · have hpersists : (changed.persist.andThen
          (change.concluded table.sheet.name changed number)).Persists changed fun found ↦
            found.1 = changed := ⟨_, rfl, hconcluded⟩
      refine (hpersists.meets ⟨changed, hchanged, hpersists⟩).mono (fun _ h ↦ h) fun found h ↦ ?_
      rwa [h]
    · exact hchanged

end Tables

namespace Query

variable {α β : Type}

theorem meets_onSuccess (good : α → Prop) {writing : Procedure (Except Fault β) → Prop}
    {step : Procedure (Except Fault α)} {following : α → Procedure (Except Fault β)}
    (hstep : step.Meets (fun _ ↦ False) fun found ↦ ∀ value, found = .ok value → good value)
    (hfollowing : ∀ value, good value → (following value).Meets writing fun _ ↦ True) :
    (onSuccess step following).Meets writing fun _ ↦ True := by
  refine Procedure.Meets.andThen hstep (fun _ h ↦ h.elim) fun found hfound ↦ ?_
  cases found with
  | error fault => trivial
  | ok value => exact hfollowing value (hfound value rfl)

theorem meets_source (config : Config) (table : Table) (join : Option Join) :
    (source config table join).Meets (fun _ ↦ False) fun _ ↦ True := by
  cases join with
  | none => trivial
  | some join =>
    refine meets_onSuccess _ (Table.meets_load config _) fun other _ ↦ ?_
    unfold Sheet.joinReported
    split <;> trivial

theorem meets_restrict (filter : Option Filter) (sheet : Sheet) :
    (restrict filter sheet).Meets (fun _ ↦ False) fun _ ↦ True := by
  cases filter with
  | none => trivial
  | some condition =>
    unfold restrict Sheet.filterReported
    dsimp only
    split <;> trivial

/-- A select writes nothing. -/
theorem meets_executeSelect (query : Query) (config : Config) :
    (query.executeSelect config).Meets (fun _ ↦ False) fun _ ↦ True := by
  have hany {γ : Type} {step : Procedure (Except Fault γ)}
      (hstep : step.Meets (fun _ ↦ False) fun _ ↦ True) :
      step.Meets (fun _ ↦ False) fun found ↦ ∀ value, found = .ok value → True :=
    hstep.mono (fun _ h ↦ h) fun _ _ _ _ ↦ trivial
  refine meets_onSuccess (fun _ ↦ True) (fun _ _ ↦ trivial) fun name _ ↦ ?_
  refine meets_onSuccess _ (Table.meets_load config _) fun table _ ↦ ?_
  refine meets_onSuccess (fun _ ↦ True) (hany (meets_source config table query.join)) ?_
  intro rows _
  refine meets_onSuccess (fun _ ↦ True) (hany (meets_restrict query.filter rows)) fun kept _ ↦ ?_
  exact meets_onSuccess (fun _ ↦ True) (fun _ _ ↦ trivial) fun projected _ ↦ trivial

/-- A query writes the text of a sound table at most, and nothing after that. -/
theorem meets_execute (query : Query) (config : Config) :
    (query.execute config).Meets
      (fun rest ↦ ∃ changed, changed.KeptUnder config ∧ rest.Persists changed fun _ ↦ True)
      fun _ ↦ True := by
  cases hrequest : Change.requested? query with
  | none =>
    rw [Change.execute_of_select (Change.requested?_eq_none_iff.mp hrequest)]
    exact (query.meets_executeSelect config).mono (fun _ h ↦ h.elim) fun _ h ↦ h
  | some request =>
    rw [Change.execute_of_requested hrequest]
    refine meets_onSuccess (fun _ ↦ True) (fun _ _ ↦ trivial) fun name _ ↦ ?_
    refine meets_onSuccess (fun _ ↦ True) (fun _ _ ↦ trivial) fun change _ ↦ ?_
    refine meets_onSuccess _ (Table.meets_load config _) fun table htable ↦ ?_
    refine (Change.meets_on htable change).andThen ?_ fun _ _ ↦ trivial
    rintro rest ⟨changed, hchanged, hrest⟩
    exact ⟨changed, hchanged, hrest.andThen fun _ _ ↦ trivial⟩

end Query

/-! ### Parties -/

/-- What a party can be told to do. -/
inductive Task
  | load (path : String)
  | make (change : Change)
  | write
  | drop
  | ask (query : Query)

/-- What a party that keeps a table or none does for a task. It loads and asks with empty hands
only, so that a table it keeps is not lost. -/
def Task.begun (config : Config) : Task → Option Table → Procedure (Option Table)
  | .load path, none => (Table.load config path).andThen fun loaded ↦ .done loaded.toOption
  | .ask query, none => (query.execute config).andThen fun _ ↦ .done none
  | .make change, some table => (change.on table).andThen fun found ↦ .done (some found.1)
  | .write, some table => table.persist.andThen fun _ ↦ .done (some table)
  | .drop, _ => .done none
  | _, kept => .done kept

/-- The party is about to write the table, and it keeps this table afterwards, or none if it
carries out a query. -/
def Holds (party : Procedure (Option Table)) (table : Table) : Prop :=
  party.Persists table fun kept ↦ kept = none ∨ kept = some table

/-- Whatever the party reads and whichever of its accesses fail, it writes sound tables that it
holds, and keeps a sound table or none. -/
def Dutiful (config : Config) (party : Procedure (Option Table)) : Prop :=
  party.Meets (fun rest ↦ ∃ table, table.KeptUnder config ∧ Holds rest table) fun kept ↦
    ∀ table, kept = some table → table.KeptUnder config

theorem dutiful_done {config : Config} {kept : Option Table} :
    Dutiful config (.done kept) ↔ ∀ table, kept = some table → table.KeptUnder config := Iff.rfl

/-- A party is dutiful at every task. -/
theorem dutiful_begun {config : Config} {kept : Option Table}
    (hkept : ∀ table, kept = some table → table.KeptUnder config) (task : Task) :
    Dutiful config (task.begun config kept) := by
  cases kept with
  | none =>
    cases task with
    | load path =>
      refine (Table.meets_load config path).andThen (fun _ h ↦ h.elim) fun loaded hloaded ↦ ?_
      cases loaded with
      | error fault => exact hkept
      | ok table => exact fun other h ↦ hloaded other (congrArg Except.ok (Option.some.inj h))
    | ask query =>
      refine (query.meets_execute config).andThen ?_ fun _ _ ↦ hkept
      rintro rest ⟨table, htable, hrest⟩
      exact ⟨table, htable, hrest.andThen fun _ _ ↦ Or.inl rfl⟩
    | make change => exact hkept
    | write => exact hkept
    | drop => exact hkept
  | some table =>
    have htable := hkept table rfl
    cases task with
    | load path => exact hkept
    | ask query => exact hkept
    | drop => exact fun _ h ↦ absurd h (by simp)
    | write =>
      have hpersists : (Task.begun config .write (some table)).Persists table (· = some table) :=
        ⟨_, rfl, fun _ ↦ rfl⟩
      have hholds : Holds (Task.begun config .write (some table)) table :=
        hpersists.mono fun _ h ↦ Or.inr h
      exact (hpersists.meets ⟨table, htable, hholds⟩).mono (fun _ h ↦ h) fun kept h ↦ by rwa [h]
    | make change =>
      refine (Change.meets_on htable change).andThen ?_ ?_
      · rintro rest ⟨changed, hchanged, hrest⟩
        exact ⟨changed, hchanged, hrest.andThen fun found h ↦ Or.inr (congrArg some h)⟩
      · intro found hfound other h
        cases h
        exact hfound

/-! ### Worlds -/

/-- A disk and the parties that work on it. -/
structure World where
  disk : Disk
  /-- What each party is about to do; one that is done keeps a table or none. -/
  parties : Nat → Procedure (Option Table)
  /-- The writes that succeeded, the last one first: where each went, and the party that made it
  as it was just before. -/
  writes : List (Location × Procedure (Option Table))

/-- What can happen next. -/
inductive Move
  /-- A party that is done is told what to do. -/
  | begins (who : Nat) (task : Task)
  /-- A party that is done with empty hands gets a copy of a table that another one keeps. -/
  | copies (who other : Nat)
  /-- A party does one thing, and if this is an access to a file it may be refused. -/
  | acts (who : Nat) (refusal : Option FileFailure)

namespace World

/-- The disk before anyone has done anything. -/
def start (disk : Disk) : World :=
  ⟨disk, fun _ ↦ .done none, []⟩

/-- The world in which one party is about to do something else. -/
def assign (world : World) (who : Nat) (party : Procedure (Option Table)) : World :=
  { world with parties := fun other ↦ if other = who then party else world.parties other }

/-- The world after one move; a move that is not possible changes nothing. -/
def move (config : Config) (world : World) : Move → World
  | .begins who task =>
    match world.parties who with
    | .done kept => world.assign who (task.begun config kept)
    | _ => world
  | .copies who other =>
    match world.parties who, world.parties other with
    | .done none, .done kept => world.assign who (.done kept)
    | _, _ => world
  | .acts who refusal =>
    let (rest, disk, written) := (world.parties who).step .empty refusal world.disk
    { world.assign who rest with
      disk
      writes :=
        match written with
        | some location => (location, world.parties who) :: world.writes
        | none => world.writes }

/-- The world after moves in order. -/
def play (config : Config) (world : World) (moves : List Move) : World :=
  moves.foldl (move config) world

/-- The file at a location is what it was at first, or the text of the table that the last party
to write it held. -/
def LastWritten (config : Config) (initial : Disk) (world : World) (location : Location) : Prop :=
  match world.writes.lookup location with
  | none => world.disk.entry? location = initial.entry? location
  | some writer => ∃ table, table.KeptUnder config ∧ Holds writer table ∧
      world.disk.locate table.path = .ok location ∧
      world.disk.entry? location = some (.file table.text.toUTF8)

variable {config : Config} {world : World}

theorem dutiful_assign (hparties : ∀ who, Dutiful config (world.parties who)) (who : Nat)
    {party : Procedure (Option Table)} (hparty : Dutiful config party) :
    ∀ other, Dutiful config ((world.assign who party).parties other) := by
  intro other
  simp only [assign]
  split
  · exact hparty
  · exact hparties other

/-- Parties are dutiful after every move. -/
theorem dutiful_move (hparties : ∀ who, Dutiful config (world.parties who)) (move : Move) :
    ∀ who, Dutiful config ((world.move config move).parties who) := by
  cases move with
  | begins who task =>
    have hparty := hparties who
    unfold World.move
    dsimp only
    split
    · next kept hkept =>
      rw [hkept, dutiful_done] at hparty
      exact dutiful_assign hparties who (dutiful_begun hparty task)
    · exact hparties
  | copies who other =>
    have hparty := hparties other
    unfold World.move
    dsimp only
    split
    · next kept _ hkept =>
      rw [hkept] at hparty
      exact dutiful_assign hparties who hparty
    · exact hparties
  | acts who refusal =>
    exact dutiful_assign hparties who ((hparties who).step .empty refusal world.disk)

/-- A move that puts the text of a sound table at a location settles this file and leaves what is
said of the others. -/
theorem lastWritten_of_put {initial : Disk} {next : World} {written : Location}
    {writer : Procedure (Option Table)} {table : Table}
    (hfiles : ∀ location, LastWritten config initial world location)
    (htable : table.KeptUnder config) (hholds : Holds writer table) (hwritten : written ≠ [])
    (hplace : world.disk.entry? written ≠ some .directory)
    (hdisk : next.disk = world.disk.put written (.file table.text.toUTF8))
    (hlocate : next.disk.locate table.path = .ok written)
    (hwrites : next.writes = (written, writer) :: world.writes) :
    ∀ location, LastWritten config initial next location := by
  intro location
  rw [LastWritten, hwrites, List.lookup_cons]
  by_cases hlocation : location = written
  · subst location
    rw [beq_self_eq_true]
    exact ⟨table, htable, hholds, hlocate, by rw [hdisk, Disk.entry?_put_self _ hwritten]⟩
  · have hother := hfiles location
    rw [LastWritten] at hother
    rw [beq_false_of_ne hlocation]
    dsimp only
    cases hwriter : world.writes.lookup location with
    | none =>
      rw [hwriter] at hother
      rw [hdisk]
      exact (Disk.entry?_put_of_ne _ hwritten _ hlocation).trans hother
    | some before =>
      rw [hwriter] at hother
      obtain ⟨old, hold, hheld, hfound, hentry⟩ := hother
      rw [hdisk]
      exact ⟨old, hold, hheld, Disk.locate_put hwritten hplace _ hfound,
        (Disk.entry?_put_of_ne _ hwritten _ hlocation).trans hentry⟩

/-- What is said of every file holds after every move of dutiful parties. -/
theorem lastWritten_move {initial : Disk} (hparties : ∀ who, Dutiful config (world.parties who))
    (hfiles : ∀ location, LastWritten config initial world location) (move : Move) :
    ∀ location, LastWritten config initial (world.move config move) location := by
  cases move with
  | begins who task =>
    unfold World.move
    dsimp only
    split <;> exact hfiles
  | copies who other =>
    unfold World.move
    dsimp only
    split <;> exact hfiles
  | acts who refusal =>
    have hwrites : (world.move config (.acts who refusal)).writes =
        match ((world.parties who).step .empty refusal world.disk).2.2 with
        | some location => (location, world.parties who) :: world.writes
        | none => world.writes := rfl
    rcases (world.parties who).step_cases .empty refusal world.disk with
      ⟨hdisk, hnone⟩ | ⟨path, content, next, written, hparty, hsome, hplace, hnew, hdisk, hlocate⟩
    · intro location
      rw [hnone] at hwrites
      have hsame : (world.move config (.acts who refusal)).disk = world.disk := hdisk
      rw [LastWritten, hwrites, hsame]
      exact hfiles location
    · rw [hsome] at hwrites
      have hdutiful := hparties who
      rw [hparty] at hdutiful
      obtain ⟨table, htable, hholds⟩ := hdutiful.1
      obtain ⟨rfl, rfl⟩ := hholds.eq_of_writeFile
      rw [← hparty] at hholds
      exact lastWritten_of_put hfiles htable hholds hplace hnew hdisk hlocate hwrites

/-- Parties stay dutiful, and what is said of every file stays true, whatever moves are made. -/
theorem lastWritten_play_of_dutiful {initial : Disk} (moves : List Move) :
    ∀ world : World, (∀ who, Dutiful config (world.parties who)) →
      (∀ location, LastWritten config initial world location) →
      ∀ location, LastWritten config initial (world.play config moves) location := by
  induction moves with
  | nil => exact fun world _ hfiles ↦ hfiles
  | cons move moves ih =>
    intro world hparties hfiles
    exact ih (world.move config move) (dutiful_move hparties move)
      (lastWritten_move hparties hfiles move)

theorem lastWritten_play (config : Config) (initial : Disk) (moves : List Move)
    (location : Location) :
    LastWritten config initial ((start initial).play config moves) location :=
  lastWritten_play_of_dutiful moves (start initial) (fun _ _ h ↦ nomatch h) (fun _ ↦ rfl) location

end World

/-- A file with the text of a sound table loads under either policy, through any path that leads
to it, and gives the header and the rows of the table. -/
theorem Table.run_load_of_entry {config : Config} {table : Table} {disk : Disk}
    {location : Location} (hdelimiter : Delimited.Separates config.delimiter)
    (htable : table.KeptUnder config)
    (hentry : disk.entry? location = some (.file table.text.toUTF8)) {path : String}
    (hlocate : disk.locate path = .ok location) (arity : Arity) (input : ByteArray) :
    (load { config with arity } path).run input disk =
      ⟨.ok ⟨path, config.delimiter, config.idColumn,
          ⟨nameOf path, table.sheet.header, table.sheet.rows⟩⟩, disk,
        [.loaded (nameOf path) path table.sheet.header.length table.sheet.rows.length]⟩ := by
  have htext : ofText { config with arity } path table.text = _ :=
    ofText_text path hdelimiter htable.delimiter_eq htable.sound
  rw [run_load, Disk.read_of_locate hlocate hentry, ofContent_toUTF8, htext]

namespace World

/-- After any moves a file is what it was at first, or the encoding of the header and the rows of
the table that the last party to write it held when it did. The latter loads under both arity
policies, through any path that leads to it, and gives this header and these rows without any
warning. -/
theorem lastWriter_of_play {config : Config} (hdelimiter : Delimited.Separates config.delimiter)
    (initial : Disk) (moves : List Move) (location : Location) :
    let world := (start initial).play config moves
    match world.writes.lookup location with
    | none => world.disk.entry? location = initial.entry? location
    | some writer => ∃ table, Holds writer table ∧
        world.disk.locate table.path = .ok location ∧
        world.disk.entry? location = some (.file
          (Delimited.encode config.delimiter (table.sheet.header :: table.sheet.rows)).toUTF8) ∧
        ∀ path, world.disk.locate path = .ok location → ∀ arity input,
          (Table.load { config with arity } path).run input world.disk =
            ⟨.ok ⟨path, config.delimiter, config.idColumn,
                ⟨Table.nameOf path, table.sheet.header, table.sheet.rows⟩⟩, world.disk,
              [.loaded (Table.nameOf path) path table.sheet.header.length
                table.sheet.rows.length]⟩ := by
  intro world
  have hlast := lastWritten_play config initial moves location
  rw [LastWritten] at hlast
  split
  · next hnone =>
    rw [hnone] at hlast
    exact hlast
  · next writer hwriter =>
    rw [hwriter] at hlast
    obtain ⟨table, htable, hholds, hlocate, hentry⟩ := hlast
    refine ⟨table, hholds, hlocate, ?_, fun path hpath arity input ↦ ?_⟩
    · rwa [Table.text, htable.delimiter_eq] at hentry
    · exact Table.run_load_of_entry hdelimiter htable hentry hpath arity input

/-- A disk with one table in its only file. -/
def sharedDisk : Disk :=
  { entries := [(["t.csv"], .file "id,name\n7,Ada\n8,Bob\n".toUTF8)] }

/-- Two parties that keep the same table. The first adds a row to it, the second is refused to
write once, and then removes a row from what it keeps. -/
def staleMoves : List Move :=
  [.begins 0 (.load "t.csv"), .acts 0 none, .acts 0 none, .copies 1 0,
    .begins 0 (.make (.insert (.ofList [("name", "Eve")]))), .acts 0 none,
    .begins 1 .write, .acts 1 (some .notFound),
    .begins 1 (.make (.delete (some ⟨"id", "7"⟩))), .acts 1 none]

/-- The file is that of the second party, in which the new row of the first is missing. -/
theorem lastWriter_of_staleMoves :
    Delimited.Separates ',' ∧
      Disk.entry? ((start sharedDisk).play {} staleMoves).disk ["t.csv"] =
        some (.file "id,name\n8,Bob\n".toUTF8) ∧
      ∃ writer table,
        ((start sharedDisk).play {} staleMoves).writes.lookup ["t.csv"] = some writer ∧
          Holds writer table ∧
          Disk.entry? ((start sharedDisk).play {} staleMoves).disk ["t.csv"] = some (.file
            (Delimited.encode ',' (table.sheet.header :: table.sheet.rows)).toUTF8) := by
  have hdelimiter : Delimited.Separates ({} : Config).delimiter := by decide
  have hlast := lastWriter_of_play hdelimiter sharedDisk staleMoves ["t.csv"]
  have hfile : Disk.entry? ((start sharedDisk).play {} staleMoves).disk ["t.csv"] =
      some (.file "id,name\n8,Bob\n".toUTF8) := by decide +kernel
  dsimp only at hlast
  split at hlast
  · rw [hfile] at hlast
    exact absurd hlast (by decide +kernel)
  · next writer hwriter =>
    obtain ⟨table, hholds, -, hentry, -⟩ := hlast
    exact ⟨hdelimiter, hfile, writer, table, hwriter, hholds, hentry⟩

end World

end FlatTables
