import Mathlib.Data.Set.Insert
import Mathlib.Logic.Function.Basic

/-! Heap memory as separate blocks of cells. An access names a block and an offset in
it; touching a dead block or running past the end of a live one has no result. -/
namespace BlockMemory

/-- Name of a heap block; zero is the null pointer. -/
abbrev Addr := Nat

/-- The live blocks with their cells. The null pointer never names a live block. -/
structure Mem (β : Type) where
  block : Addr → Option (List β)
  null_dead : block 0 = none

/-- A block that is not live yet. Its initial cells are whatever the allocator left there. -/
structure Fresh {β : Type} (m : Mem β) where
  addr : Addr
  cells : List β
  nonnull : addr ≠ 0
  dead : m.block addr = none

/-- An allocator answers a request with null or with a fresh block of the size asked. -/
structure Allocator (β : Type) where
  grant : (m : Mem β) → (size : Nat) → Option (Fresh m)
  sized : ∀ {m size f}, grant m size = some f → f.cells.length = size

/-- One store: `data` at `offset` of the block `addr`. -/
structure Write (β : Type) where
  addr : Addr
  offset : Nat
  data : List β
  deriving DecidableEq, Repr

variable {β : Type}

namespace Mem

def empty : Mem β := ⟨fun _ => none,rfl⟩

@[ext] theorem ext {m m' : Mem β} (same : ∀ a, m.block a = m'.block a) : m = m' := by
  cases m; cases m'
  simp only [mk.injEq]
  exact funext same

def live (m : Mem β) : Set Addr := {a | m.block a ≠ none}

@[simp] theorem mem_live (m : Mem β) (a : Addr) : a ∈ m.live ↔ m.block a ≠ none := Iff.rfl

theorem live_nonnull {m : Mem β} {a : Addr} {cells : List β} (alive : m.block a = some cells) :
    a ≠ 0 := by
  rintro rfl
  simp [m.null_dead] at alive

/-- Replaces or removes the contents of a block that is not the null pointer. -/
def set (m : Mem β) (a : Addr) (nonnull : a ≠ 0) (cells : Option (List β)) : Mem β where
  block := Function.update m.block a cells
  null_dead := by rw [Function.update_of_ne nonnull.symm]; exact m.null_dead

@[simp] theorem block_set_self (m : Mem β) (a : Addr) (nonnull : a ≠ 0) (cells) :
    (m.set a nonnull cells).block a = cells := Function.update_self ..

theorem block_set_other (m : Mem β) (a : Addr) (nonnull : a ≠ 0) (cells) {b : Addr} (ne : b ≠ a) :
    (m.set a nonnull cells).block b = m.block b := Function.update_of_ne ne ..

theorem live_set_some (m : Mem β) (a : Addr) (nonnull : a ≠ 0) (cells : List β) :
    (m.set a nonnull (some cells)).live = insert a m.live := by
  ext b
  by_cases same : b = a
  · subst same; simp
  · simp [block_set_other m a nonnull _ same,same]

def alloc (m : Mem β) (f : Fresh m) : Mem β := m.set f.addr f.nonnull (some f.cells)

@[simp] theorem block_alloc_self (m : Mem β) (f : Fresh m) :
    (m.alloc f).block f.addr = some f.cells := block_set_self ..

theorem live_alloc (m : Mem β) (f : Fresh m) :
    (m.alloc f).live = insert f.addr m.live := live_set_some ..

theorem fresh_not_live (m : Mem β) (f : Fresh m) : f.addr ∉ m.live := by
  simp [f.dead]

/-- Releases a live block; there is no result when the block is not live. -/
def free (m : Mem β) (a : Addr) : Option (Mem β) :=
  match alive : m.block a with
  | none => none
  | some _ => some (m.set a (live_nonnull alive) none)

/-- What a completed release did: one live block is dead and the others are as they were. -/
theorem free_cases {m m' : Mem β} {a : Addr} (freed : m.free a = some m') :
    m.block a ≠ none ∧ m'.block a = none ∧ ∀ b, b ≠ a → m'.block b = m.block b := by
  unfold free at freed
  split at freed
  · contradiction
  · next cells alive =>
    obtain rfl := Option.some.inj freed
    refine ⟨by simp [alive],by simp,?_⟩
    intro b ne
    exact block_set_other m a _ _ ne

theorem free_some {m : Mem β} {a : Addr} (alive : m.block a ≠ none) : ∃ m', m.free a = some m' := by
  unfold free
  split
  next dead => exact absurd dead alive
  next => exact ⟨_,rfl⟩

theorem live_free {m m' : Mem β} {a : Addr} (freed : m.free a = some m') : m'.live = m.live \ {a} := by
  obtain ⟨_,dead,frame⟩ := free_cases freed
  ext b
  by_cases same : b = a
  · subst same; simp [dead]
  · simp [frame b same,same]

/-- Overwrites a run of cells. Callers check the bound first. -/
def splice (cells : List β) (offset : Nat) (data : List β) : List β :=
  cells.take offset ++ data ++ cells.drop (offset + data.length)

theorem splice_length (cells : List β) (offset : Nat) (data : List β)
    (fits : offset + data.length ≤ cells.length) :
    (splice cells offset data).length = cells.length := by
  simp only [splice,List.length_append,List.length_take,List.length_drop]
  omega

theorem splice_zero (cells data : List β) : splice cells 0 data = data ++ cells.drop data.length := by
  simp [splice]

theorem splice_get?_outside {cells data : List β} {offset i : Nat}
    (fits : offset + data.length ≤ cells.length) (outside : i < offset ∨ offset + data.length ≤ i) :
    (splice cells offset data)[i]? = cells[i]? := by
  have skipped : (cells.take offset).length = offset := by
    rw [List.length_take]
    omega
  rw [splice,List.append_assoc]
  rcases outside with before | after
  · rw [List.getElem?_append_left (by omega),List.getElem?_take_of_lt before]
  · rw [List.getElem?_append_right (by omega),List.getElem?_append_right (by omega),
      List.getElem?_drop,skipped]
    congr 1
    omega

theorem splice_get?_start {cells data : List β} {offset : Nat} {value : β}
    (fits : offset + (value :: data).length ≤ cells.length) :
    (splice cells offset (value :: data))[offset]? = some value := by
  have skipped : (cells.take offset).length = offset := by
    rw [List.length_take]
    omega
  rw [splice,List.append_assoc,List.getElem?_append_right (by omega),skipped,Nat.sub_self,
    List.cons_append,List.getElem?_cons_zero]

/-- A store inside a live block; out of bounds or to a dead block it has no result. -/
def write (m : Mem β) (w : Write β) : Option (Mem β) :=
  match alive : m.block w.addr with
  | none => none
  | some cells =>
    if w.offset + w.data.length ≤ cells.length then
      some (m.set w.addr (live_nonnull alive) (some (splice cells w.offset w.data)))
    else none

/-- What a completed store did: it stayed inside one live block and changed nothing else. -/
theorem write_cases {m m' : Mem β} {w : Write β} (stored : m.write w = some m') :
    ∃ cells, m.block w.addr = some cells ∧ w.offset + w.data.length ≤ cells.length ∧
      m'.block w.addr = some (splice cells w.offset w.data) ∧
      ∀ b, b ≠ w.addr → m'.block b = m.block b := by
  unfold write at stored
  split at stored
  · contradiction
  · next cells alive =>
    split at stored
    · next fits =>
      obtain rfl := Option.some.inj stored
      exact ⟨cells,alive,fits,by simp,fun b ne => block_set_other m _ _ _ ne⟩
    · contradiction

theorem write_some {m : Mem β} {w : Write β} {cells : List β} (alive : m.block w.addr = some cells)
    (fits : w.offset + w.data.length ≤ cells.length) : ∃ m', m.write w = some m' := by
  unfold write
  split
  next dead => simp [alive] at dead
  next found alive' =>
    obtain rfl := Option.some.inj (alive.symm.trans alive')
    exact ⟨_,if_pos fits⟩

theorem live_write {m m' : Mem β} {w : Write β} (stored : m.write w = some m') : m'.live = m.live := by
  obtain ⟨cells,alive,_,written,frame⟩ := write_cases stored
  ext b
  by_cases same : b = w.addr
  · subst same; simp [alive,written]
  · simp [frame b same]

def writes (m : Mem β) (ws : List (Write β)) : Option (Mem β) := ws.foldlM write m

@[simp] theorem writes_nil (m : Mem β) : m.writes [] = some m := rfl

@[simp] theorem writes_singleton (m : Mem β) (w : Write β) : m.writes [w] = m.write w := by
  simp [writes,List.foldlM]

theorem writes_cons (m : Mem β) (w : Write β) (ws : List (Write β)) :
    m.writes (w :: ws) = (m.write w).bind (·.writes ws) := rfl

theorem live_writes {m m' : Mem β} {ws : List (Write β)} (stored : m.writes ws = some m') :
    m'.live = m.live := by
  induction ws generalizing m with
  | nil => rw [writes_nil] at stored; rw [Option.some.inj stored]
  | cons w ws ih =>
    rw [writes_cons] at stored
    obtain ⟨mid,first,rest⟩ := Option.bind_eq_some_iff.mp stored
    rw [ih rest,live_write first]

theorem writes_size {m m' : Mem β} {ws : List (Write β)} (stored : m.writes ws = some m') {a : Addr}
    {cells : List β} (alive : m.block a = some cells) :
    ∃ cells', m'.block a = some cells' ∧ cells'.length = cells.length := by
  induction ws generalizing m cells with
  | nil => obtain rfl := Option.some.inj stored; exact ⟨cells,alive,rfl⟩
  | cons w ws ih =>
    rw [writes_cons] at stored
    obtain ⟨mid,first,rest⟩ := Option.bind_eq_some_iff.mp stored
    obtain ⟨found,alive',fits,written,frame⟩ := write_cases first
    by_cases same : a = w.addr
    · subst same
      obtain rfl := Option.some.inj (alive.symm.trans alive')
      obtain ⟨cells',after,size⟩ := ih rest written
      exact ⟨cells',after,size.trans (splice_length _ _ _ fits)⟩
    · exact ih rest ((frame a same).trans alive)

/-- Stores that stay inside one live block complete, keep its size and touch no other block. -/
theorem writes_within {m : Mem β} {a : Addr} {cells : List β} {ws : List (Write β)}
    (alive : m.block a = some cells)
    (inside : ∀ w ∈ ws, w.addr = a ∧ w.offset + w.data.length ≤ cells.length) :
    ∃ m' cells', m.writes ws = some m' ∧ m'.block a = some cells' ∧ cells'.length = cells.length ∧
      ∀ b, b ≠ a → m'.block b = m.block b := by
  induction ws generalizing m cells with
  | nil => exact ⟨m,cells,rfl,alive,rfl,fun _ _ => rfl⟩
  | cons w ws ih =>
    obtain ⟨rfl,fits⟩ := inside w List.mem_cons_self
    obtain ⟨mid,first⟩ := write_some alive fits
    obtain ⟨found,alive',_,written,frame⟩ := write_cases first
    obtain rfl := Option.some.inj (alive.symm.trans alive')
    have size := splice_length cells w.offset w.data fits
    obtain ⟨m',cells',rest,after,size',frame'⟩ := ih written (by
      intro v member
      rw [size]
      exact inside v (List.mem_cons_of_mem _ member))
    refine ⟨m',cells',?_,after,size'.trans size,fun b ne => (frame' b ne).trans (frame b ne)⟩
    rw [writes_cons,first,Option.bind_some,rest]

theorem write_fresh {m : Mem β} (f : Fresh m) {data : List β} (size : f.cells.length = data.length) :
    (m.alloc f).write ⟨f.addr,0,data⟩ = some (m.set f.addr f.nonnull (some data)) := by
  obtain ⟨m',stored⟩ := write_some (block_alloc_self m f) (w := ⟨f.addr,0,data⟩) (by simp [size])
  obtain ⟨cells,alive,_,written,frame⟩ := write_cases stored
  rw [stored]
  congr 1
  apply Mem.ext
  intro a
  by_cases same : a = f.addr
  · subst same
    rw [block_alloc_self] at alive
    obtain rfl := Option.some.inj alive
    rw [written,block_set_self,splice_zero]
    simp [size]
  · rw [frame a same,block_set_other _ _ _ _ same,alloc,block_set_other _ _ _ _ same]

theorem free_set {m : Mem β} {a : Addr} (dead : m.block a = none) (nonnull : a ≠ 0) (cells : List β) :
    (m.set a nonnull (some cells)).free a = some m := by
  obtain ⟨m',freed⟩ := free_some (m := m.set a nonnull (some cells)) (a := a) (by simp)
  obtain ⟨_,gone,frame⟩ := free_cases freed
  rw [freed]
  congr 1
  apply Mem.ext
  intro b
  by_cases same : b = a
  · rw [same,gone,dead]
  · rw [frame b same,block_set_other _ _ _ _ same]

/-- Reads `n` cells at an offset; like a store, only inside a live block. -/
def read (m : Mem β) (a : Addr) (offset n : Nat) : Option (List β) :=
  match m.block a with
  | none => none
  | some cells => if offset + n ≤ cells.length then some ((cells.drop offset).take n) else none

theorem read_of_block {m : Mem β} {a : Addr} {cells : List β} (alive : m.block a = some cells)
    {offset n : Nat} (fits : offset + n ≤ cells.length) :
    m.read a offset n = some ((cells.drop offset).take n) := by
  simp [read,alive,fits]

end Mem

end BlockMemory
