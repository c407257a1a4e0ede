import RpcTransport.Proofs.Gathering.Transparency

/-!
Cutting a sequence of requests into batches. Without windows, alarms and generations, a sequence of
requests is cut greedily: the first request opens a block, which takes what comes before its
deadline, as far as there is room. What a run sends, and when, are exactly these blocks.
-/

namespace RpcTransport.Gathering

/-! ### Cutting -/

/-- A request with the time at which it comes. -/
structure Entry where
  time : Nat
  request : Request

/-- Requests that belong together, with the time at which they are sent. -/
structure Block where
  time : Nat
  entries : List Entry

/-- The requests of a schedule with their times, in order. -/
def entries (schedule : List Step) : List Entry :=
  schedule.flatMap fun step =>
    (step.action.arrivals.flatMap Arrival.requests).map (Entry.mk step.time)

/-- What is sent for a block, and when. -/
def Block.sending (block : Block) : Nat × List Request :=
  (block.time, block.entries.map Entry.request)

/-- Of the entries that come in time a block takes as many as there is room for. It is sent when the
last of them has filled it, or else at its deadline. -/
def Block.of (maxSize : Option Nat) (deadline : Nat) (timely : List Entry) : Block :=
  match maxSize with
  | none => ⟨deadline, timely⟩
  | some size => ⟨timely[size - 1]?.elim deadline Entry.time, timely.take size⟩

/-- The block that an entry opens, and that of those after it takes what comes before its deadline.
-/
def Block.openedBy (wait : Nat) (maxSize : Option Nat) (first : Entry) (rest : List Entry) :
    Block :=
  .of maxSize (first.time + wait)
    (first :: rest.takeWhile fun entry => entry.time < first.time + wait)

/-- The blocks into which a sequence of entries is cut. -/
def blocks (wait : Nat) (maxSize : Option Nat) : List Entry → List Block
  | [] => []
  | first :: rest =>
    let block := Block.openedBy wait maxSize first rest
    block :: blocks wait maxSize (rest.drop (block.entries.length - 1))
termination_by entries => entries.length
decreasing_by simp only [List.length_drop, List.length_cons]; omega

/-- No entry comes exactly at the deadline of a block. -/
def OffDeadlines (wait : Nat) (cut : List Block) (entries : List Entry) : Prop :=
  ∀ block ∈ cut, ∀ first ∈ block.entries.head?, ∀ entry ∈ entries,
    entry.time ≠ first.time + wait

section Cutting

variable {wait : Nat} {maxSize : Option Nat} {first entry : Entry} {more rest : List Entry}

/-- The blocks into which entries are cut when a block is open and holds its first entry and some
more. -/
def blocksFrom (wait : Nat) (maxSize : Option Nat) (first : Entry) (more rest : List Entry) :
    List Block :=
  let block := Block.of maxSize (first.time + wait)
    (first :: more ++ rest.takeWhile fun entry => entry.time < first.time + wait)
  block :: blocks wait maxSize (rest.drop (block.entries.length - (more.length + 1)))

/-- The first entry opens a block. -/
theorem blocks_cons :
    blocks wait maxSize (first :: rest) = blocksFrom wait maxSize first [] rest := by
  rw [blocks]
  rfl

/-- An entry that is enough for a block is sent by itself. -/
theorem blocks_cons_full (full : maxSize = some 1) :
    blocks wait maxSize (first :: rest) = ⟨first.time, [first]⟩ :: blocks wait maxSize rest := by
  subst full
  simp [blocks_cons, blocksFrom, Block.of]

/-- Whether a limit leaves room after so many entries. -/
def HasRoom (maxSize : Option Nat) (size : Nat) : Prop :=
  ∀ limit ∈ maxSize, size < limit

/-- A block with room takes all entries there are, and is sent at its deadline. -/
theorem Block.of_of_hasRoom {deadline : Nat} {timely : List Entry}
    (room : HasRoom maxSize timely.length) :
    Block.of maxSize deadline timely = ⟨deadline, timely⟩ := by
  cases maxSize with
  | none => rfl
  | some size =>
      have few : timely.length < size := room size rfl
      have noLast : timely[size - 1]? = none := List.getElem?_eq_none (by omega)
      rw [Block.of, noLast, List.take_of_length_le (Nat.le_of_lt few)]
      rfl

/-- If nothing comes any more, an open block is sent at its deadline. -/
theorem blocksFrom_nil (room : HasRoom maxSize (more.length + 1)) :
    blocksFrom wait maxSize first more [] = [⟨first.time + wait, first :: more⟩] := by
  have held : Block.of maxSize (first.time + wait) (first :: more) = ⟨_, first :: more⟩ :=
    Block.of_of_hasRoom room
  simp [blocksFrom, held, blocks]

/-- If the next entry comes too late, an open block is sent at its deadline. -/
theorem blocksFrom_late (rest : List Entry) (room : HasRoom maxSize (more.length + 1))
    (late : first.time + wait ≤ entry.time) :
    blocksFrom wait maxSize first more (entry :: rest) =
      ⟨first.time + wait, first :: more⟩ :: blocks wait maxSize (entry :: rest) := by
  have held : Block.of maxSize (first.time + wait) (first :: more) = ⟨_, first :: more⟩ :=
    Block.of_of_hasRoom room
  simp [blocksFrom, held, Nat.not_lt.mpr late]

/-- The next entry is one of those in time, if it is in time itself. -/
theorem takeWhile_of_early {deadline : Nat} (early : entry.time < deadline) :
    (entry :: rest).takeWhile (fun entry => entry.time < deadline) =
      entry :: rest.takeWhile fun entry => entry.time < deadline :=
  List.takeWhile_cons_of_pos (decide_eq_true early)

/-- An entry that fills an open block sends it. -/
theorem blocksFrom_full (full : maxSize = some (more.length + 2))
    (early : entry.time < first.time + wait) :
    blocksFrom wait maxSize first more (entry :: rest) =
      ⟨entry.time, first :: more ++ [entry]⟩ :: blocks wait maxSize rest := by
  subst full
  have taken : ∀ others : List Entry,
      (more ++ entry :: others).take (more.length + 1) = more ++ [entry] := by
    intro others
    rw [List.append_cons]
    exact List.take_left' (List.length_append ..)
  simp [blocksFrom, Block.of, takeWhile_of_early early, taken]

/-- An entry that comes in time joins an open block. -/
theorem blocksFrom_join (room : HasRoom maxSize (more.length + 2))
    (early : entry.time < first.time + wait) :
    blocksFrom wait maxSize first more (entry :: rest) =
      blocksFrom wait maxSize first (more ++ [entry]) rest := by
  have held : ∀ others : List Entry, more.length + 2 ≤
      (Block.of maxSize (first.time + wait)
        (first :: (more ++ entry :: others))).entries.length := by
    intro others
    cases maxSize with
    | none => simp [Block.of]
    | some size =>
        have few : more.length + 2 < size := room size rfl
        simp only [Block.of, List.length_take, List.length_cons, List.length_append]
        omega
  have taken := held (rest.takeWhile fun entry => entry.time < first.time + wait)
  simp only [blocksFrom, takeWhile_of_early early, List.append_assoc, List.cons_append,
    List.nil_append, List.length_append, List.length_singleton]
  generalize Block.of _ _ _ = block at taken ⊢
  obtain ⟨left, counted⟩ := Nat.exists_eq_add_of_le taken
  rw [show block.entries.length - (more.length + 1) = left + 1 by omega,
    show block.entries.length - (more.length + 1 + 1) = left by omega, List.drop_succ_cons]

/-- Entries come in the order of their times. -/
def Chronological (entries : List Entry) : Prop :=
  entries.Pairwise fun first second => first.time ≤ second.time

/-- A block takes the first of its entries. -/
theorem Block.of_prefix (maxSize : Option Nat) (deadline : Nat) (timely : List Entry) :
    (Block.of maxSize deadline timely).entries <+: timely := by
  cases maxSize with
  | none => exact List.prefix_rfl
  | some size => exact List.take_prefix size timely

/-- If there is room for any entry, a block takes the first one. -/
theorem Block.head?_of (positive : HasRoom maxSize 0) (deadline : Nat) :
    (Block.of maxSize deadline (first :: rest)).entries.head? = some first := by
  cases maxSize with
  | none => rfl
  | some size =>
      obtain ⟨others, rfl⟩ := Nat.exists_eq_add_of_le' (positive size rfl)
      rfl

/-- The block that an entry opens holds it, and takes the next ones. -/
theorem Block.openedBy_entries (positive : HasRoom maxSize 0) :
    (Block.openedBy wait maxSize first rest).entries =
      first :: rest.take ((Block.openedBy wait maxSize first rest).entries.length - 1) := by
  have nonempty : (Block.openedBy wait maxSize first rest).entries ≠ [] := by
    intro empty
    have head : (Block.openedBy wait maxSize first rest).entries.head? = some first :=
      Block.head?_of positive (first.time + wait)
    rw [empty] at head
    cases head
  have isPrefix : (Block.openedBy wait maxSize first rest).entries <+: first :: rest :=
    (Block.of_prefix ..).trans ((List.prefix_cons_inj first).mpr (List.takeWhile_prefix _))
  have taken := List.prefix_iff_eq_take.mp isPrefix
  obtain ⟨others, many⟩ := Nat.exists_eq_add_of_le' (List.length_pos_of_ne_nil nonempty)
  rw [many] at taken ⊢
  simpa using taken

/-- The blocks hold all entries, in order. -/
theorem flatMap_blocks (positive : HasRoom maxSize 0) (entries : List Entry) :
    (blocks wait maxSize entries).flatMap Block.entries = entries := by
  induction entries using blocks.induct wait maxSize with
  | case1 => simp [blocks]
  | case2 first rest block inductionHypothesis =>
      have held : block.entries = first :: rest.take (block.entries.length - 1) :=
        Block.openedBy_entries positive
      rw [blocks, List.flatMap_cons, inductionHypothesis]
      show block.entries ++ rest.drop (block.entries.length - 1) = first :: rest
      generalize block.entries.length - 1 = taken at held ⊢
      rw [held, List.cons_append, List.take_append_drop]

/-- No entry waits for longer than its block could. -/
theorem Block.of_time {deadline : Nat} {timely : List Entry} (chronological : Chronological timely)
    (bounds : ∀ entry ∈ timely, entry.time ≤ deadline ∧ deadline ≤ entry.time + wait) :
    ∀ entry ∈ (Block.of maxSize deadline timely).entries,
      entry.time ≤ (Block.of maxSize deadline timely).time ∧
        (Block.of maxSize deadline timely).time ≤ entry.time + wait := by
  intro entry member
  have timelyMember := (Block.of_prefix maxSize deadline timely).subset member
  obtain ⟨before, after⟩ := bounds entry timelyMember
  cases maxSize with
  | none => exact ⟨before, after⟩
  | some size =>
      simp only [Block.of]
      cases isLast : timely[size - 1]? with
      | none => exact ⟨before, after⟩
      | some last =>
          -- the entry stands among the first ones, and the last of them sends them
          obtain ⟨isPlace, rfl⟩ := List.getElem?_eq_some_iff.mp isLast
          obtain ⟨n, early, rfl⟩ := List.mem_take_iff_getElem.mp member
          have ordered : timely[n].time ≤ timely[size - 1].time := by
            rcases Nat.lt_or_ge n (size - 1) with less | notLess
            · exact List.pairwise_iff_getElem.mp chronological n (size - 1) _ isPlace less
            · have same : n = size - 1 := by omega
              simp only [same, Nat.le_refl]
          have lastBounds := bounds timely[size - 1] (List.getElem_mem isPlace)
          exact ⟨ordered, Nat.le_trans lastBounds.1 after⟩

/-- No entry waits for longer than a block does. -/
theorem time_of_mem_blocks {entries : List Entry} (chronological : Chronological entries) :
    ∀ block ∈ blocks wait maxSize entries, ∀ entry ∈ block.entries,
      entry.time ≤ block.time ∧ block.time ≤ entry.time + wait := by
  induction entries using blocks.induct wait maxSize with
  | case1 => simp [blocks]
  | case2 first rest opened inductionHypothesis =>
      obtain ⟨after, laterOnes⟩ := List.pairwise_cons.mp chronological
      intro block isBlock
      rw [blocks] at isBlock
      rcases List.mem_cons.mp isBlock with rfl | isBlock
      · apply Block.of_time
        · exact chronological.sublist (List.Sublist.cons_cons _ (List.takeWhile_sublist _))
        · intro entry member
          rcases List.mem_cons.mp member with rfl | member
          · exact ⟨Nat.le_add_right _ _, Nat.le_refl _⟩
          · have early := List.mem_takeWhile_imp member
            have reached := after entry ((List.takeWhile_sublist _).subset member)
            exact ⟨Nat.le_of_lt (of_decide_eq_true early), Nat.add_le_add_right reached wait⟩
      · exact inductionHypothesis (laterOnes.sublist (List.drop_sublist _ _)) block isBlock

end Cutting
end RpcTransport.Gathering
