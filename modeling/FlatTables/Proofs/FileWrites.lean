import FlatTables.File.Disk

/-!
# What a write does to a disk

A write that succeeds puts the content at one location, which was no directory, and the path leads
to that location afterwards (`Disk.write_eq_ok`). Nothing else changes: every other location keeps
what stands there (`Disk.entry?_put`), and every path that led somewhere still leads there
(`Disk.locate_put`). So a path reads what was written last through any path to the same location,
and a file that can be read can be written (`Disk.write_of_read`). Of two writes of one file the
second leaves no trace of the first (`Disk.write_write`).
-/

set_option autoImplicit false
set_option relaxedAutoImplicit false

namespace FlatTables.Disk

/-! ### Entries -/

theorem lookup_replace (entries : List (Location × Entry)) (location other : Location)
    (entry : Entry) :
    (entries.map fun (place, old) ↦
        if place = location then (place, entry) else (place, old)).lookup other =
      if other = location then (entries.lookup location).map fun _ ↦ entry
      else entries.lookup other := by
  induction entries with
  | nil => simp
  | cons head entries ih =>
    obtain ⟨place, old⟩ := head
    rw [List.map_cons]
    by_cases hplace : place = location
    · subst place
      by_cases hother : other = location
      · subst other
        simp only [if_true, List.lookup_cons, beq_self_eq_true, Option.map_some]
      · have hne : (other == location) = false := beq_false_of_ne hother
        simp only [if_true, List.lookup_cons, hne, ih, if_neg hother]
    · by_cases hother : other = location
      · subst other
        have hne : (location == place) = false := beq_false_of_ne (Ne.symm hplace)
        simp only [if_neg hplace, List.lookup_cons, hne, ih, if_true]
      · simp only [if_neg hplace, List.lookup_cons, ih, if_neg hother]

theorem replace_replace (entries : List (Location × Entry)) (location : Location)
    (entry other : Entry) :
    ((entries.map fun (place, old) ↦
        if place = location then (place, entry) else (place, old)).map fun (place, old) ↦
      if place = location then (place, other) else (place, old)) =
    entries.map fun (place, old) ↦
      if place = location then (place, other) else (place, old) := by
  rw [List.map_map]
  refine List.map_congr_left fun (place, old) _ ↦ ?_
  by_cases hplace : place = location <;> simp [hplace]

theorem any_replace (entries : List (Location × Entry)) (location : Location) (entry : Entry) :
    ((entries.map fun (place, old) ↦
        if place = location then (place, entry) else (place, old)).any fun (place, _) ↦
      place == location) = entries.any fun (place, _) ↦ place == location := by
  rw [List.any_map]
  refine congrArg (List.any entries) (funext fun (place, old) ↦ ?_)
  by_cases hplace : place = location <;> simp [hplace]

theorem replace_of_any_eq_false {entries : List (Location × Entry)} {location : Location}
    (hnone : (entries.any fun (place, _) ↦ place == location) = false) (entry : Entry) :
    (entries.map fun (place, old) ↦
      if place = location then (place, entry) else (place, old)) = entries := by
  refine (List.map_congr_left fun (place, old) hhead ↦ ?_).trans (List.map_id entries)
  have hplace : ¬ place = location := fun hsame ↦
    List.any_eq_false.mp hnone (place, old) hhead (by simpa using hsame)
  simp [hplace]

theorem any_eq_isSome_lookup (entries : List (Location × Entry)) (location : Location) :
    (entries.any fun (place, _) ↦ place == location) = (entries.lookup location).isSome := by
  rw [Bool.eq_iff_iff, List.any_eq_true, List.lookup_isSome_iff]
  refine exists_congr fun entry ↦ and_congr_right fun _ ↦ ?_
  rw [BEq.comm]

/-- A put changes what stands at its own location and nothing else. -/
theorem entry?_put (disk : Disk) {location : Location} (hlocation : location ≠ []) (entry : Entry)
    (other : Location) :
    Disk.entry? (disk.put location entry) other =
      if other = location then some entry else disk.entry? other := by
  by_cases hroot : other = []
  · subst other
    rw [if_neg (Ne.symm hlocation)]
    rfl
  · simp only [Disk.entry?, if_neg hroot, put, any_eq_isSome_lookup]
    cases hlookup : disk.entries.lookup location with
    | some old => rw [if_pos Option.isSome_some, lookup_replace, hlookup, Option.map_some]
    | none =>
      rw [Option.isSome_none, if_neg Bool.false_ne_true, List.lookup_append]
      by_cases hother : other = location
      · subst other
        simp [hlookup]
      · have hne : (other == location) = false := beq_false_of_ne hother
        simp [hother, List.lookup_cons, hne]

theorem entry?_put_self (disk : Disk) {location : Location} (hlocation : location ≠ [])
    (entry : Entry) : Disk.entry? (disk.put location entry) location = some entry := by
  rw [entry?_put disk hlocation, if_pos rfl]

theorem entry?_put_of_ne (disk : Disk) {location other : Location} (hlocation : location ≠ [])
    (entry : Entry) (hother : other ≠ location) :
    Disk.entry? (disk.put location entry) other = disk.entry? other := by
  rw [entry?_put disk hlocation, if_neg hother]

/-- Of two entries put at one location the later one stays. -/
theorem put_put (disk : Disk) (location : Location) (entry other : Entry) :
    (disk.put location entry).put location other = disk.put location other := by
  cases hany : disk.entries.any fun (place, _) ↦ place == location with
  | true => simp only [put, hany, any_replace, replace_replace, if_true]
  | false => simp [put, hany, replace_of_any_eq_false hany]

/-! ### Paths -/

section Paths

variable {disk : Disk} {location : Location}

theorem entry?_put_eq_directory_iff (hlocation : location ≠ [])
    (hplace : disk.entry? location ≠ some .directory) (content : ByteArray) (other : Location) :
    Disk.entry? (disk.put location (.file content)) other = some .directory ↔
      disk.entry? other = some .directory := by
  rw [entry?_put disk hlocation]
  split
  · next h => simp [h, hplace]
  · rfl

theorem isSome_entry?_put (hlocation : location ≠ []) (entry : Entry) {other : Location}
    (hother : (disk.entry? other).isSome) :
    (Disk.entry? (disk.put location entry) other).isSome := by
  rw [entry?_put disk hlocation]
  split
  · rfl
  · exact hother

/-- What has to hold for one step of a path to lead somewhere. -/
theorem follow_eq_ok_iff {origin target : Location} {segment : String} :
    disk.follow origin segment = .ok target ↔
      disk.entry? origin = some .directory ∧
        (if segment = "" ∨ segment = "." then target = origin
        else if segment = ".." then target = origin.dropLast
        else segment.utf8ByteSize ≤ maxNameBytes ∧
          (disk.entry? (origin ++ [segment])).isSome ∧ target = origin ++ [segment]) := by
  unfold follow
  by_cases hdirectory : disk.entry? origin = some .directory
  · rw [if_neg (not_not_intro hdirectory)]
    split
    · simp [hdirectory, eq_comm]
    · split
      · simp [hdirectory, eq_comm]
      · split
        · next hlong => simp [Nat.not_le.mpr hlong]
        · next hshort =>
          split
          · next hsome => simp [hdirectory, hsome, Nat.not_lt.mp hshort, eq_comm]
          · next hnone => simp [hnone]
  · simp [hdirectory]

/-- A step of a path that led somewhere leads there still when a file takes the place of what is
no directory. -/
theorem follow_put (hlocation : location ≠ []) (hplace : disk.entry? location ≠ some .directory)
    (content : ByteArray) {origin target : Location} {segment : String}
    (hfollow : disk.follow origin segment = .ok target) :
    (disk.put location (.file content)).follow origin segment = .ok target := by
  rw [follow_eq_ok_iff] at hfollow ⊢
  obtain ⟨hdirectory, hstep⟩ := hfollow
  refine ⟨(entry?_put_eq_directory_iff hlocation hplace content origin).mpr hdirectory, ?_⟩
  split
  · next hstay => rwa [if_pos hstay] at hstep
  · next hmove =>
    rw [if_neg hmove] at hstep
    split
    · next hup => rwa [if_pos hup] at hstep
    · next hdown =>
      rw [if_neg hdown] at hstep
      exact ⟨hstep.1, isSome_entry?_put hlocation _ hstep.2.1, hstep.2.2⟩

theorem walk_put (hlocation : location ≠ []) (hplace : disk.entry? location ≠ some .directory)
    (content : ByteArray) (segments : List String) :
    ∀ {origin target : Location}, disk.walk origin segments = .ok target →
      (disk.put location (.file content)).walk origin segments = .ok target := by
  induction segments with
  | nil => intro origin target hwalk; exact hwalk
  | cons segment segments ih =>
    intro origin target hwalk
    simp only [walk, List.foldlM_cons] at hwalk ⊢
    cases hfollow : disk.follow origin segment with
    | error failure => rw [hfollow] at hwalk; cases hwalk
    | ok next =>
      rw [hfollow] at hwalk
      rw [follow_put hlocation hplace content hfollow]
      exact ih hwalk

/-- A path that the system begins to follow. -/
def Followable (path : String) : Prop :=
  ¬ path.toList.contains '\x00' ∧ path ≠ "" ∧ ¬ maxPathBytes < path.utf8ByteSize

theorem locate_eq_walk {path : String} (hpath : Followable path) (disk : Disk) :
    disk.locate path = disk.walk (disk.origin path) (Path.segments path) := by
  obtain ⟨hnul, hempty, hlong⟩ := hpath
  rw [locate, if_neg hnul, if_neg hempty, if_neg hlong]

theorem followable_of_locate {path : String} {found : Except FileFailure Location}
    (hlocate : disk.locate path = found)
    (hfound : found ≠ .error .nulInPath ∧ found ≠ .error .nameTooLong) (hempty : path ≠ "") :
    Followable path := by
  subst found
  refine ⟨fun hnul ↦ hfound.1 ?_, hempty, fun hlong ↦ ?_⟩
  · rw [locate, if_pos hnul]
  · by_cases hnul : path.toList.contains '\x00' = true
    · exact hfound.1 (by rw [locate, if_pos hnul])
    · exact hfound.2 (by rw [locate, if_neg hnul, if_neg hempty, if_pos hlong])

theorem ne_empty_of_locate_eq_ok {path : String} {target : Location}
    (hlocate : disk.locate path = .ok target) : path ≠ "" := by
  rintro rfl
  simp [locate] at hlocate

/-- A path that led somewhere leads there still when a file takes the place of what is no
directory. -/
theorem locate_put (hlocation : location ≠ []) (hplace : disk.entry? location ≠ some .directory)
    (content : ByteArray) {path : String} {target : Location}
    (hlocate : disk.locate path = .ok target) :
    (disk.put location (.file content)).locate path = .ok target := by
  have hpath : Followable path :=
    followable_of_locate hlocate (by simp) (ne_empty_of_locate_eq_ok hlocate)
  rw [locate_eq_walk hpath] at hlocate ⊢
  exact walk_put hlocation hplace content _ hlocate

end Paths

/-! ### Writing -/

section Writing

variable {disk : Disk} {path : String}

theorem walk_concat {origin parent : Location} {parents : List String} (name : String)
    (hparents : disk.walk origin parents = .ok parent) :
    disk.walk origin (parents ++ [name]) = disk.follow parent name := by
  unfold walk at hparents ⊢
  rw [List.foldlM_append, hparents]
  exact bind_pure (disk.follow parent name)

/-- A step finds nothing only at a name that nothing has in the directory reached so far. -/
theorem eq_none_of_follow_eq_notFound {origin : Location} {name : String}
    (hfollow : disk.follow origin name = .error .notFound) :
    disk.entry? (origin ++ [name]) = none ∧ name ≠ "" ∧ name ≠ "." ∧ name ≠ ".." ∧
      name.utf8ByteSize ≤ maxNameBytes := by
  unfold follow at hfollow
  split at hfollow
  · cases hfollow
  · split at hfollow
    · cases hfollow
    · next hstay =>
      split at hfollow
      · cases hfollow
      · next hup =>
        split at hfollow
        · cases hfollow
        · next hshort =>
          split at hfollow
          · cases hfollow
          · next hnone =>
            obtain ⟨hname, hdot⟩ := not_or.mp hstay
            exact ⟨by simpa using hnone, hname, hdot, hup, Nat.not_lt.mp hshort⟩

/-- A path that leads nowhere, although its last segment names a file that could be made, leads
to that file once it is there. -/
theorem locate_put_newLocation (hlocate : disk.locate path = .error .notFound) (hempty : path ≠ "")
    {location : Location} (hnew : disk.newLocation? path = some location) (content : ByteArray) :
    location ≠ [] ∧ disk.entry? location ≠ some .directory ∧
      (disk.put location (.file content)).locate path = .ok location := by
  have hpath : Followable path := followable_of_locate hlocate (by simp) hempty
  rw [locate_eq_walk hpath] at hlocate ⊢
  simp only [newLocation?, Option.bind_eq_bind, Option.bind_eq_some_iff] at hnew
  obtain ⟨name, hname, parent, hparent, hmade⟩ := hnew
  obtain ⟨parents, hsegments⟩ := List.getLast?_eq_some_iff.mp hname
  rw [hsegments] at hlocate ⊢
  rw [hsegments, List.dropLast_concat] at hparent
  have hwalk : disk.walk (disk.origin path) parents = .ok parent := by
    cases hparents : disk.walk (disk.origin path) parents with
    | error failure => rw [hparents] at hparent; cases hparent
    | ok found => rw [hparents] at hparent; cases hparent; rfl
  rw [walk_concat name hwalk] at hlocate
  obtain ⟨hnone, hnamed, hdot, hup, hshort⟩ := eq_none_of_follow_eq_notFound hlocate
  obtain ⟨hdirectory, rfl⟩ :
      disk.entry? parent = some .directory ∧ parent ++ [name] = location := by
    split at hmade
    · cases hmade
    · next h => exact ⟨by simpa using (not_or.mp h).2, Option.some.inj hmade⟩
  have hlocation : parent ++ [name] ≠ [] := by simp
  have hplace : disk.entry? (parent ++ [name]) ≠ some .directory := by simp [hnone]
  refine ⟨hlocation, hplace, ?_⟩
  have horigin : (disk.put (parent ++ [name]) (.file content)).origin path = disk.origin path := rfl
  rw [horigin, walk_concat name (walk_put hlocation hplace content parents hwalk), follow_eq_ok_iff]
  refine ⟨(entry?_put_eq_directory_iff hlocation hplace content parent).mpr hdirectory, ?_⟩
  rw [if_neg (not_or.mpr ⟨hnamed, hdot⟩), if_neg hup]
  exact ⟨hshort, by rw [entry?_put_self disk hlocation]; rfl, rfl⟩

/-- A write that succeeds puts a file where the path leads, and no directory stood there. -/
theorem write_eq_ok {content : ByteArray} {changed : Disk}
    (hwrite : disk.write path content = .ok changed) :
    ∃ location, location ≠ [] ∧ disk.entry? location ≠ some .directory ∧
      changed = disk.put location (.file content) ∧ changed.locate path = .ok location := by
  unfold write at hwrite
  split at hwrite
  · next location hlocate =>
    split at hwrite
    · cases hwrite
    · next hplace =>
      cases hwrite
      have hlocation : location ≠ [] := by
        rintro rfl
        exact hplace rfl
      exact ⟨location, hlocation, hplace, rfl, locate_put hlocation hplace content hlocate⟩
  · next hlocate =>
    split at hwrite
    · cases hwrite
    · next hempty =>
      split at hwrite
      · next location hnew =>
        cases hwrite
        obtain ⟨hlocation, hplace, hnow⟩ := locate_put_newLocation hlocate hempty hnew content
        exact ⟨location, hlocation, hplace, rfl, hnow⟩
      · cases hwrite
  · cases hwrite

theorem read_of_locate {location : Location} {content : ByteArray}
    (hlocate : disk.locate path = .ok location)
    (hentry : disk.entry? location = some (.file content)) : disk.read path = .ok content := by
  simp only [read, hlocate, hentry, bind, Except.bind]

/-- What is written is read back. -/
theorem read_of_write {content : ByteArray} {changed : Disk}
    (hwrite : disk.write path content = .ok changed) : changed.read path = .ok content := by
  obtain ⟨location, hlocation, -, rfl, hlocate⟩ := write_eq_ok hwrite
  exact read_of_locate hlocate (entry?_put_self disk hlocation _)

/-- What is read stands at the location that the path leads to. -/
theorem exists_location_of_read {content : ByteArray} (hread : disk.read path = .ok content) :
    ∃ location, disk.locate path = .ok location ∧
      disk.entry? location = some (.file content) := by
  cases hlocate : disk.locate path with
  | error failure => rw [read, hlocate] at hread; cases hread
  | ok location =>
    refine ⟨location, rfl, ?_⟩
    simp only [read, hlocate, bind, Except.bind] at hread
    cases hentry : disk.entry? location with
    | none => rw [hentry] at hread; cases hread
    | some entry =>
      rw [hentry] at hread
      cases entry with
      | directory => cases hread
      | file found => cases hread; rfl

/-- Writing to where a file stands replaces this file. -/
theorem write_of_locate {location : Location} (hlocate : disk.locate path = .ok location)
    {old : ByteArray} (hentry : disk.entry? location = some (.file old)) (new : ByteArray) :
    disk.write path new = .ok (disk.put location (.file new)) := by
  have hplace : disk.entry? location ≠ some .directory := by simp [hentry]
  simp only [write, hlocate, if_neg hplace]

/-- A file that can be read can be written. -/
theorem write_of_read {content : ByteArray} (hread : disk.read path = .ok content)
    (new : ByteArray) : ∃ changed, disk.write path new = .ok changed := by
  obtain ⟨location, hlocate, hentry⟩ := exists_location_of_read hread
  exact ⟨disk.put location (.file new), write_of_locate hlocate hentry new⟩

theorem ne_nil_of_entry?_eq_file {location : Location} {content : ByteArray}
    (hentry : disk.entry? location = some (.file content)) : location ≠ [] := by
  rintro rfl
  cases hentry

/-- A file that is written twice is as if it had been written the second time only. -/
theorem write_write {between : Disk} {old first : ByteArray} (hread : disk.read path = .ok old)
    (hwrite : disk.write path first = .ok between) (second : ByteArray) :
    between.write path second = disk.write path second := by
  obtain ⟨location, hlocate, hentry⟩ := exists_location_of_read hread
  have hlocation := ne_nil_of_entry?_eq_file hentry
  have hplace : disk.entry? location ≠ some .directory := by simp [hentry]
  rw [write_of_locate hlocate hentry] at hwrite ⊢
  obtain rfl := Except.ok.inj hwrite
  rw [write_of_locate (locate_put hlocation hplace first hlocate)
    (entry?_put_self disk hlocation _), put_put]

end Writing

end FlatTables.Disk
