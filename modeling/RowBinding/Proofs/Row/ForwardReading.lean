import RowBinding.Proofs.Row.Cursor

/-!
# How far reading goes forward

Calls on a source read the rows of a result set, go to the next result set and
close the source. In between two calls that go to the next result set, reading
is forward only if it comes to the rows in order, each of them once, and then
finds no row any more, until the source is closed.

A source does not remember that it found no row. The read after that one starts
over, so the reads within a result set run through its rows in a cycle. Reading
is forward only just when no read is made beyond the first one that finds no
row, or there are no rows that it could come back to.
-/

namespace RowBinding

/-- A call that moves a source on or closes it. -/
inductive CursorCall
  | read
  | nextResult
  | close

/-- What a read answers: the row that it goes to, or none if there is no row. -/
abbrev Reading := Except SourceError (Option Nat)

namespace MemoryRowSource

/-! ## Runs of calls -/

/-- What a read answers at this point. -/
def reading (source : MemoryRowSource) : Reading :=
  source.read.map fun (found, moved) => if found then moved.currentRow else none

/-- The source after a call, which leaves it as it is if it fails. -/
def after (source : MemoryRowSource) : CursorCall → MemoryRowSource
  | .read =>
      match source.read with
      | .ok (_, moved) => moved
      | .error _ => source
  | .nextResult =>
      match source.nextResult with
      | .ok (_, moved) => moved
      | .error _ => source
  | .close => source.close

/-- What the reads of a run answer, apart for each result set. -/
def readings : List CursorCall → MemoryRowSource → List (List Reading)
  | [], _ => [[]]
  | .read :: later, source =>
      (readings later (source.after .read)).modifyHead (source.reading :: ·)
  | .nextResult :: later, source => [] :: readings later (source.after .nextResult)
  | .close :: later, source => readings later (source.after .close)

/-- How many reads a run makes before it closes the source, apart for each result set. -/
def openReads : List CursorCall → List Nat
  | [] => [0]
  | .read :: later => (openReads later).modifyHead (· + 1)
  | .nextResult :: later => 0 :: openReads later
  | .close :: _ => [0]

/-- The rows are read in order, then none is found any more, and then the source is closed. -/
def ForwardOnly (answers : List Reading) : Prop :=
  ∃ rows misses refusals : Nat,
    answers =
      (List.range rows).map (fun row => .ok (some row)) ++
        (List.replicate misses (.ok none) ++ List.replicate refusals (.error .closed))

/-- The only row that a read can go to is the one with as many rows before it as reads. -/
theorem ForwardOnly.row_eq
    {answers : List Reading}
    {position row : Nat}
    (forward : ForwardOnly answers)
    (isRow : answers[position]? = some (.ok (some row))) :
    row = position := by
  obtain ⟨rows, misses, refusals, rfl⟩ := forward
  rw [List.getElem?_append] at isRow
  split at isRow
  · obtain ⟨_, isRow⟩ := List.getElem?_eq_some_iff.mp isRow
    rw [List.getElem_map, List.getElem_range] at isRow
    cases isRow
    rfl
  · rcases List.mem_append.mp (List.mem_of_getElem? isRow) with member | member
    · cases List.eq_of_mem_replicate member
    · cases List.eq_of_mem_replicate member

/-! ## Reading in a cycle -/

/-- The row of a result set that a read goes to after some reads, if there is one. -/
def cycleRow (rows reads : Nat) : Option Nat :=
  if reads % (rows + 1) < rows then some (reads % (rows + 1)) else none

/-- The answers to reads of a result set after some others, and to reads once it is closed. -/
def cycle (rows reads made refused : Nat) : List Reading :=
  (List.range' reads made).map (fun reads => .ok (cycleRow rows reads)) ++
    List.replicate refused (.error .closed)

theorem cycleRow_of_lt
    {rows reads : Nat}
    (inside : reads < rows) :
    cycleRow rows reads = some reads := by
  rw [cycleRow, Nat.mod_eq_of_lt (Nat.lt_succ_of_lt inside), if_pos inside]

theorem cycleRow_self (rows : Nat) : cycleRow rows rows = none := by
  rw [cycleRow, Nat.mod_eq_of_lt (Nat.lt_succ_self rows), if_neg (Nat.lt_irrefl rows)]

theorem cycleRow_zero (reads : Nat) : cycleRow 0 reads = none :=
  if_neg (Nat.not_lt_zero _)

/-- The first reads of a result set are on its rows, as far as there are rows. -/
theorem map_cycleRow_of_le
    {rows made : Nat}
    (few : made ≤ rows) :
    (List.range' 0 made).map (fun reads => (.ok (cycleRow rows reads) : Reading)) =
      (List.range made).map fun row => .ok (some row) := by
  rw [← List.range_eq_range']
  refine List.map_congr_left fun reads member => ?_
  rw [cycleRow_of_lt (Nat.lt_of_lt_of_le (List.mem_range.mp member) few)]

theorem forwardOnly_cycle_of_le
    {rows made : Nat}
    (few : made ≤ rows + 1)
    (refused : Nat) :
    ForwardOnly (cycle rows 0 made refused) := by
  rcases Nat.le_or_eq_of_le_succ few with inside | rfl
  · refine ⟨made, 0, refused, ?_⟩
    rw [cycle, map_cycleRow_of_le inside, List.replicate_zero, List.nil_append]
  · refine ⟨rows, 1, refused, ?_⟩
    rw [cycle, List.range'_concat, List.map_append, map_cycleRow_of_le (Nat.le_refl rows),
      List.append_assoc, List.map_singleton, Nat.one_mul, Nat.zero_add, cycleRow_self]
    rfl

theorem forwardOnly_cycle_zero (made refused : Nat) : ForwardOnly (cycle 0 0 made refused) := by
  refine ⟨0, made, refused, ?_⟩
  rw [cycle, ← List.range_eq_range', List.range_zero, List.map_nil, List.nil_append]
  refine congrArg (· ++ _) (List.eq_replicate_iff.mpr ⟨by simp, fun answer member => ?_⟩)
  obtain ⟨read, _, rfl⟩ := List.mem_map.mp member
  rw [cycleRow_zero]

theorem forwardOnly_cycle_iff (rows made refused : Nat) :
    ForwardOnly (cycle rows 0 made refused) ↔ rows = 0 ∨ made ≤ rows + 1 := by
  constructor
  · intro forward
    refine Decidable.or_iff_not_imp_left.mpr fun someRows => Nat.not_lt.mp fun many => ?_
    -- The read after the first one without a row is at the first row again.
    have startsOver : (cycle rows 0 made refused)[rows + 1]? = some (.ok (some 0)) := by
      rw [cycle, List.getElem?_append_left (by simp; omega), List.getElem?_map,
        List.getElem?_range' (by omega)]
      simp [cycleRow]
      omega
    exact absurd (forward.row_eq startsOver) (Nat.succ_ne_zero rows).symm
  · rintro (rfl | few)
    · exact forwardOnly_cycle_zero made refused
    · exact forwardOnly_cycle_of_le few refused

/-! ## What a call does -/

/-- Number of rows of a result set, of which there are none behind the last one. -/
def rowCount (resultSets : List ResultSet) (set : Nat) : Nat :=
  resultSets[set]?.elim 0 (·.rows.length)

/-- The source is open and in a result set of which some reads were made. -/
structure Stands
    (resultSets : List ResultSet)
    (set reads : Nat)
    (source : MemoryRowSource) : Prop where
  resultSets_eq : source.resultSets = resultSets
  isOpen : source.isClosed = false
  currentSet_eq : source.currentSet = min set resultSets.length
  nextRow_eq : source.nextRow = reads % (rowCount resultSets set + 1)

namespace Stands

variable
  {resultSets : List ResultSet}
  {set reads : Nat}
  {source : MemoryRowSource}

theorem ofResultSets (resultSets : List ResultSet) :
    (MemoryRowSource.ofResultSets resultSets).Stands resultSets 0 0 where
  resultSets_eq := rfl
  isOpen := rfl
  currentSet_eq := (Nat.zero_min _).symm
  nextRow_eq := (Nat.zero_mod _).symm

theorem current?_eq (stands : source.Stands resultSets set reads) :
    source.current? = resultSets[set]? := by
  rw [current?, stands.resultSets_eq, stands.currentSet_eq]
  rcases Nat.le_total set resultSets.length with inside | behind
  · rw [Nat.min_eq_left inside]
  · rw [Nat.min_eq_right behind, List.getElem?_eq_none (Nat.le_refl _),
      List.getElem?_eq_none behind]

/-- Behind the last result set there are no rows, and a read leaves everything as it is. -/
theorem read_of_behind
    (stands : source.Stands resultSets set reads)
    (behind : resultSets[set]? = none) :
    source.reading = .ok (cycleRow (rowCount resultSets set) reads) ∧
      (source.after .read).Stands resultSets set (reads + 1) := by
  have noRows : rowCount resultSets set = 0 := by rw [rowCount, behind]; rfl
  have isRead : source.read = .ok (false, source) := by
    rw [read, if_neg (Bool.eq_false_iff.mp stands.isOpen), stands.current?_eq, behind]
  rw [reading, after, isRead, noRows, cycleRow_zero]
  refine ⟨rfl, { stands with nextRow_eq := ?_ }⟩
  rw [stands.nextRow_eq, noRows, Nat.mod_one, Nat.mod_one]

/-- A read of a result set goes on in the cycle of its rows. -/
theorem read_of_current
    {resultSet : ResultSet}
    (stands : source.Stands resultSets set reads)
    (isCurrent : resultSets[set]? = some resultSet) :
    source.reading = .ok (cycleRow (rowCount resultSets set) reads) ∧
      (source.after .read).Stands resultSets set (reads + 1) := by
  have isOn : source.IsOn resultSet := ⟨stands.isOpen, stands.current?_eq.trans isCurrent⟩
  have rows_eq : rowCount resultSets set = resultSet.rows.length := by
    rw [rowCount, isCurrent]; rfl
  have next_eq := stands.nextRow_eq
  have next_lt := Nat.mod_lt reads (Nat.succ_pos (rowCount resultSets set))
  have following : (reads + 1) % (rowCount resultSets set + 1) =
      (source.nextRow + 1) % (rowCount resultSets set + 1) := by
    rw [next_eq, Nat.mod_add_mod]
  rw [reading, after, isOn.read_eq, ← rows_eq, cycleRow, ← next_eq]
  rw [← next_eq] at next_lt
  split
  · next inside =>
      refine ⟨rfl, { stands with nextRow_eq := ?_ }⟩
      rw [following, Nat.mod_eq_of_lt (Nat.succ_lt_succ inside)]
      rfl
  · next outside =>
      have last : source.nextRow = rowCount resultSets set :=
        Nat.le_antisymm (Nat.le_of_lt_succ next_lt) (Nat.not_lt.mp outside)
      refine ⟨rfl, { stands with nextRow_eq := ?_ }⟩
      rw [following, last, Nat.mod_self]
      rfl

theorem read
    (stands : source.Stands resultSets set reads) :
    source.reading = .ok (cycleRow (rowCount resultSets set) reads) ∧
      (source.after .read).Stands resultSets set (reads + 1) := by
  cases isCurrent : resultSets[set]? with
  | none => exact stands.read_of_behind isCurrent
  | some resultSet => exact stands.read_of_current isCurrent

theorem nextResult (stands : source.Stands resultSets set reads) :
    (source.after .nextResult).Stands resultSets (set + 1) 0 := by
  have moves : source.after .nextResult =
      { source with
        currentSet := min (set + 1) resultSets.length
        currentRow := none
        nextResultCalls := source.nextResultCalls + 1 } := by
    rw [after, MemoryRowSource.nextResult, if_neg (Bool.eq_false_iff.mp stands.isOpen),
      stands.resultSets_eq, stands.currentSet_eq]
    by_cases more : min set resultSets.length + 1 < resultSets.length
    · rw [if_pos more, show min (set + 1) resultSets.length =
        min set resultSets.length + 1 by omega]
    · rw [if_neg more, show min (set + 1) resultSets.length = resultSets.length by omega]
  rw [moves]
  exact ⟨stands.resultSets_eq, stands.isOpen, rfl, (Nat.zero_mod _).symm⟩

end Stands

/-! ## What a run does -/

/-- Reads of a closed source are refused, whatever is called in between. -/
theorem readings_of_closed
    (calls : List CursorCall) :
    ∀ {source : MemoryRowSource}, source.isClosed = true →
      ∀ answers ∈ readings calls source,
        ∃ refused, answers = List.replicate refused (.error .closed) := by
  induction calls with
  | nil => exact fun _ answers member => ⟨0, List.mem_singleton.mp member⟩
  | cons call later inductionHypothesis =>
      intro source isClosed answers member
      cases call with
      | read =>
          have isRead : source.read = .error .closed := by rw [read, if_pos isClosed]
          have stays : source.after .read = source := by rw [after, isRead]
          have isRefused : source.reading = .error .closed := by rw [reading, isRead]; rfl
          rw [readings, stays, isRefused] at member
          have isRefusedLater := inductionHypothesis isClosed
          cases others : readings later source with
          | nil => rw [others] at member; cases member
          | cons first rest =>
              rw [others] at isRefusedLater member
              obtain rfl | isLater := List.mem_cons.mp member
              · obtain ⟨refused, rfl⟩ := isRefusedLater first List.mem_cons_self
                exact ⟨refused + 1, rfl⟩
              · exact isRefusedLater answers (List.mem_cons_of_mem _ isLater)
      | nextResult =>
          have stays : source.after .nextResult = source := by
            rw [after, nextResult, if_pos isClosed]
          rw [readings, stays] at member
          rcases List.mem_cons.mp member with rfl | member
          · exact ⟨0, rfl⟩
          · exact inductionHypothesis isClosed answers member
      | close => exact inductionHypothesis rfl answers member

theorem openReads_ne_nil (calls : List CursorCall) : openReads calls ≠ [] := by
  induction calls with
  | nil => nofun
  | cons call later inductionHypothesis =>
      cases call with
      | read =>
          rw [openReads, ne_eq, List.modifyHead_eq_nil_iff]
          exact inductionHypothesis
      | nextResult => nofun
      | close => nofun

theorem getD_head?_openReads_read (later : List CursorCall) :
    (openReads (.read :: later))[0]?.getD 0 = (openReads later)[0]?.getD 0 + 1 := by
  rw [openReads]
  cases made : openReads later with
  | nil => exact absurd made (openReads_ne_nil later)
  | cons first rest => rfl

theorem length_openReads_le (calls : List CursorCall) :
    ∀ source : MemoryRowSource, (openReads calls).length ≤ (readings calls source).length := by
  induction calls with
  | nil => exact fun _ => Nat.le_refl _
  | cons call later inductionHypothesis =>
      intro source
      have isLess := inductionHypothesis (source.after call)
      cases call with
      | read =>
          rw [openReads, readings, List.length_modifyHead, List.length_modifyHead]
          exact isLess
      | nextResult => exact Nat.succ_le_succ isLess
      | close =>
          exact Nat.le_trans (List.length_pos_iff.mpr (openReads_ne_nil later)) isLess

theorem exists_readings_of_openReads
    {set made : Nat}
    (calls : List CursorCall)
    (source : MemoryRowSource)
    (isMade : (openReads calls)[set]? = some made) :
    ∃ answers, (readings calls source)[set]? = some answers := by
  obtain ⟨inside, _⟩ := List.getElem?_eq_some_iff.mp isMade
  exact ⟨_, List.getElem?_eq_getElem
    (Nat.lt_of_lt_of_le inside (length_openReads_le calls source))⟩

/-- The reads of an open source run through the rows of each result set in a cycle. -/
theorem readings_of_stands
    {resultSets : List ResultSet}
    (calls : List CursorCall) :
    ∀ {set reads source}, source.Stands resultSets set reads →
      ∀ position answers, (readings calls source)[position]? = some answers →
        ∃ refused, answers =
          cycle (rowCount resultSets (set + position)) (if position = 0 then reads else 0)
            ((openReads calls)[position]?.getD 0) refused := by
  induction calls with
  | nil =>
      intro set reads source stands position answers isAnswered
      obtain rfl : answers = [] := List.mem_singleton.mp (List.mem_of_getElem? isAnswered)
      refine ⟨0, ?_⟩
      cases position <;> rfl
  | cons call later inductionHypothesis =>
      intro set reads source stands position answers isAnswered
      cases call with
      | read =>
          obtain ⟨isReading, stands⟩ := stands.read
          rw [readings, isReading, List.getElem?_modifyHead] at isAnswered
          cases position with
          | zero =>
              obtain ⟨others, isLater, rfl⟩ := Option.map_eq_some_iff.mp isAnswered
              obtain ⟨refused, rfl⟩ := inductionHypothesis stands 0 others isLater
              refine ⟨refused, ?_⟩
              rw [getD_head?_openReads_read]
              rfl
          | succ position =>
              obtain ⟨refused, isCycle⟩ :=
                inductionHypothesis stands (position + 1) answers isAnswered
              refine ⟨refused, isCycle.trans ?_⟩
              rw [openReads, List.getElem?_modifyHead]
              rfl
      | nextResult =>
          rw [readings] at isAnswered
          cases position with
          | zero =>
            cases isAnswered
            exact ⟨0, rfl⟩
          | succ position =>
            obtain ⟨refused, isCycle⟩ :=
              inductionHypothesis stands.nextResult position answers isAnswered
            refine ⟨refused, isCycle.trans ?_⟩
            rw [ite_self, if_neg (Nat.succ_ne_zero position), Nat.add_right_comm]
            rfl
      | close =>
          obtain ⟨refused, rfl⟩ := readings_of_closed later rfl answers
            (List.mem_of_getElem? isAnswered)
          refine ⟨refused, ?_⟩
          rw [openReads, cycle]
          cases position <;> rfl

/-- Reading a result set is forward only just when it has no rows or few reads are made. -/
theorem forwardOnly_iff_of_readings
    {resultSets : List ResultSet}
    {calls : List CursorCall}
    {set : Nat}
    {answers : List Reading}
    (isAnswered : (readings calls (ofResultSets resultSets))[set]? = some answers) :
    ForwardOnly answers ↔
      rowCount resultSets set = 0 ∨
        (openReads calls)[set]?.getD 0 ≤ rowCount resultSets set + 1 := by
  obtain ⟨refused, rfl⟩ :=
    readings_of_stands calls (.ofResultSets resultSets) set answers isAnswered
  rw [ite_self, Nat.zero_add, forwardOnly_cycle_iff]

/--
Reading is forward only just when no result set with rows is read beyond a miss.

Only reads made before the source is closed count. As many of them as there are rows come to
the rows of a result set, and the one after these is the first that misses.
-/
theorem forwardOnly_readings_iff (resultSets : List ResultSet) (calls : List CursorCall) :
    (∀ answers ∈ readings calls (ofResultSets resultSets), ForwardOnly answers) ↔
      ∀ setAndReads ∈ resultSets.zip (openReads calls),
        setAndReads.1.rows = [] ∨ setAndReads.2 ≤ setAndReads.1.rows.length + 1 := by
  constructor
  · intro forward ⟨resultSet, made⟩ member
    obtain ⟨set, isPaired⟩ := List.mem_iff_getElem?.mp member
    obtain ⟨isCurrent, isMade⟩ := List.getElem?_zip_eq_some.mp isPaired
    obtain ⟨answers, isAnswered⟩ :=
      exists_readings_of_openReads calls (ofResultSets resultSets) isMade
    have bounded := (forwardOnly_iff_of_readings isAnswered).mp
      (forward answers (List.mem_of_getElem? isAnswered))
    rw [rowCount, isCurrent, isMade] at bounded
    exact bounded.imp List.length_eq_zero_iff.mp id
  · intro few answers member
    obtain ⟨set, isAnswered⟩ := List.mem_iff_getElem?.mp member
    rw [forwardOnly_iff_of_readings isAnswered, rowCount]
    cases isCurrent : resultSets[set]? with
    | none => exact .inl rfl
    | some resultSet =>
        cases isMade : (openReads calls)[set]? with
        | none => exact .inr (Nat.zero_le _)
        | some made =>
            have isPaired : (resultSets.zip (openReads calls))[set]? = some (resultSet, made) :=
              List.getElem?_zip_eq_some.mpr ⟨isCurrent, isMade⟩
            exact (few _ (List.mem_of_getElem? isPaired)).imp List.length_eq_zero_iff.mpr id

/-- A result set with one row. -/
def oneRow : ResultSet where
  schema := ⟨[{ name := "flag", dataType := .boolean }]⟩
  rows := [[.boolean true]]

/-- A third read of a result set with one row comes back to this row after a miss. -/
theorem not_forwardOnly_threeReads :
    readings [.read, .read, .read] (ofResultSets [oneRow]) =
        [[.ok (some 0), .ok none, .ok (some 0)]] ∧
      ¬ ForwardOnly [.ok (some 0), .ok none, .ok (some 0)] := by
  refine ⟨rfl, fun forward => ?_⟩
  have position_eq : 0 = 2 := forward.row_eq rfl
  cases position_eq

end MemoryRowSource
end RowBinding
