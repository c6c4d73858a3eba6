import IGCLWrapper.Proxies

/-! What the generated C# classes are meant to be: objects with values, and references to them or to
parts of them. A world has no addresses. It answers only a client that uses no object that is
released and deletes no object that a proxy owns. -/
namespace IGCL.Proxies

open BlockMemory CLayout FaultMachine

/-- The bytes of each cell of an object, by its path. -/
abbrev Value := List Nat → List UInt8

/-- An object has no value once it is released. `collected` objects are released by their proxy. -/
structure Object where
  type : CType
  value : Option Value
  collected : Bool

/-- A reference to an object or to a part of it. -/
structure View where
  object : Nat
  path : List Nat
  owner : Bool
  deriving DecidableEq, Repr

def View.member (v : View) (i : Nat) : View := ⟨v.object,v.path ++ [i],false⟩

structure Handle where
  type : CType
  view : Option View

structure World where
  objects : List Object
  handles : List Handle

def zeroValue (T : CType) : Value := fun path =>
  match T.place path with
  | some (_,.cell k n) => List.replicate (n * 2 ^ k) 0
  | _ => []

/-- The path of the element `ii` places after the array element that `path` names. -/
def Object.elementPath (object : Object) (path : List Nat) (ii : Nat) : Option (List Nat) :=
  path.getLast?.bind fun k =>
    match object.type.place path.dropLast with
    | some (_,.array _ n) => if k + ii < n then some (path.dropLast ++ [k + ii]) else none
    | _ => none

/-- Where a property answers to: the first element of an array, or the member itself. -/
def pointeePath (i : Nat) : CType → List Nat
  | .array .. => [i,0]
  | _ => [i]

namespace World

def start : World := ⟨[],[]⟩

def Live (b : World) (id : Nat) : Prop :=
  ∃ object value, b.objects[id]? = some object ∧ object.value = some value

def resolve (b : World) (v : View) : Option Value :=
  (b.objects[v.object]?.bind (·.value)).map fun value rest => value (v.path ++ rest)

def setValue (b : World) (id : Nat) (change : Option Value → Option Value) : World :=
  { b with objects := b.objects.modify id fun object => { object with value := change object.value } }

def assign (b : World) (v : View) (part : Value) : World :=
  b.setValue v.object (Option.map (replaceAt v.path part))

def release (b : World) (id : Nat) : World := b.setValue id fun _ => none

def create (b : World) (T : CType) (collected : Bool) (value : Value) : Answer × World :=
  (.made b.handles.length,
    ⟨b.objects ++ [⟨T,some value,collected⟩],b.handles ++ [⟨T,some ⟨b.objects.length,[],collected⟩⟩]⟩)

def openView (b : World) : Option Ref → Option View
  | none => none
  | some r => b.handles[r]?.bind (·.view)

def knows (b : World) : Option Ref → Bool
  | none => true
  | some r => r < b.handles.length

def copyElement (v w : View) (b : World) (ii : Nat) : Option World :=
  (b.objects[w.object]?.bind (·.elementPath w.path ii)).bind fun path =>
    (b.resolve { w with path }).bind fun part =>
      (b.resolve v).map fun _ => b.assign (v.member ii) part

def storeWhole (b : World) (i : Nat) (value : Option Ref) : Option View → Option World
  | none => if b.knows value then some b else none
  | some v => (b.openView value).bind fun w => (b.resolve w).bind fun part =>
    (b.resolve v).map fun _ => b.assign (v.member i) part

def storeMember (b : World) (target : Option View) (i : Nat) (value : Option Ref) :
    CType → Option World
  | .array _ count => target.bind fun v => (b.openView value).bind fun w =>
    (List.range count).foldlM (copyElement (v.member i) w) b
  | _ => b.storeWhole i value target

def step (b : World) : Action → Option (Answer × World)
  | .construct T => some (b.create T true (zeroValue T))
  | .newP T => some (b.create T false (zeroValue T))
  | .copyP none => some (.argumentNullException,b)
  | .copyP (some value) => b.handles[value]?.bind fun h =>
    match h.view with
    | none => some (.argumentNullException,b)
    | some w => (b.resolve w).map (b.create h.type false)
  | .assignP _ none => some (.argumentNullException,b)
  | .assignP obj (some value) => b.handles[value]?.bind fun h =>
    match h.view with
    | none => some (.argumentNullException,b)
    | some w => (b.resolve w).bind fun part => (b.openView obj).bind fun v =>
      (b.resolve v).map fun _ => (.done,b.assign v part)
  | .valueP none => none
  | .valueP (some obj) => b.handles[obj]?.bind fun h => h.view.bind fun v =>
    (b.resolve v).map (b.create h.type true)
  | .deleteP none => some (.done,b)
  | .deleteP (some obj) => b.handles[obj]?.bind fun h =>
    match h.view with
    | none => some (.done,b)
    | some v => b.objects[v.object]?.bind fun object =>
      if v.path = [] ∧ object.value.isSome ∧ object.collected = false then
        some (.done,b.release v.object)
      else none
  | .wcharPValue none => none
  | .wcharPValue (some obj) => b.handles[obj]?.bind fun h => h.view.bind fun v =>
    (b.resolve v).map (b.create h.type false)
  | .assignScalarP obj data => (b.openView obj).bind fun v =>
    (b.resolve v).map fun _ => (.done,b.assign v fun _ => data)
  | .scalarPValue obj => (b.openView obj).bind fun v =>
    (b.resolve v).map fun value => (.data (value []),b)
  | .get r i => (b.openView (some r)).bind fun v =>
    (b.resolve v).map fun value => (.data (value [i]),b)
  | .set r i data => b.handles[r]?.bind fun h =>
    match h.view with
    | none => some (.done,b)
    | some v => (b.resolve v).map fun _ => (.done,b.assign (v.member i) fun _ => data)
  | .view r i => b.handles[r]?.bind fun h => h.view.bind fun v => (h.type.member i).map fun field =>
    (.made b.handles.length,
      { b with handles := b.handles ++
          [⟨pointee field.2,some ⟨v.object,v.path ++ pointeePath i field.2,false⟩⟩] })
  | .store r i value => b.handles[r]?.bind fun h => (h.type.member i).bind fun field =>
    (b.storeMember h.view i value field.2).map fun b' => (.done,b')
  | .dispose r => b.handles[r]?.bind fun h =>
    match h.view with
    | none => some (.done,b)
    | some v =>
      let closed : World := { b with handles := b.handles.set r ⟨h.type,none⟩ }
      some (.done,if v.owner then closed.release v.object else closed)

end World

/-- `p` is where `v` is, and what is there has type `T`. -/
def Points (addr : Nat → Addr) (objects : List Object) (T : CType) (v : View) (p : Pointer) : Prop :=
  ∃ object o, objects[v.object]? = some object ∧ object.type.place v.path = some (o,T) ∧
    addr v.object ≠ 0 ∧ p = ⟨addr v.object,o⟩

inductive Matches (addr : Nat → Addr) (objects : List Object) : Handle → Proxy → Prop where
  | disposed (T : CType) : Matches addr objects ⟨T,none⟩ ⟨T,.null,false⟩
  | refers (T : CType) (v : View) (p : Pointer) (points : Points addr objects T v p) :
    Matches addr objects ⟨T,some v⟩ ⟨T,p,v.owner⟩

/-- The heap holds the world's objects at the addresses `addr` and nothing else. -/
structure Represents (addr : Nat → Addr) (s : Process) (b : World) : Prop where
  lengths : s.proxies.length = b.handles.length
  handles : ∀ (r : Ref) h x, b.handles[r]? = some h → s.proxies[r]? = some x → Matches addr b.objects h x
  stored : ∀ (id : Nat) object value, b.objects[id]? = some object → object.value = some value →
    ∃ bytes, s.heap.block (addr id) = some bytes ∧ Holds object.type bytes value
  separate : ∀ id id', b.Live id → b.Live id' → addr id = addr id' → id = id'
  tight : ∀ a, s.heap.block a ≠ none → ∃ id, b.Live id ∧ addr id = a

def World.Owns (b : World) (r : Ref) (v : View) : Prop :=
  ∃ h, b.handles[r]? = some h ∧ h.view = some v ∧ v.owner = true

/-- Every open owner has an object of its own, and every collected object an open owner. -/
structure World.Owned (b : World) : Prop where
  root : ∀ r v, b.Owns r v → v.path = [] ∧
    ∃ object value, b.objects[v.object]? = some object ∧ object.value = some value ∧
      object.collected = true
  unique : ∀ r r' v v', b.Owns r v → b.Owns r' v' → v.object = v'.object → r = r'
  accounted : ∀ (id : Nat) object value, b.objects[id]? = some object → object.value = some value →
    object.collected = true → ∃ r v, b.Owns r v ∧ v.object = id

namespace World

theorem setValue_objects (b : World) (id id' : Nat) (change : Option Value → Option Value) :
    (b.setValue id change).objects[id']? = (b.objects[id']?).map fun object =>
      if id = id' then { object with value := change object.value } else object := by
  simp only [setValue,List.getElem?_modify]
  split <;> simp

@[simp] theorem setValue_handles (b : World) (id : Nat) (change : Option Value → Option Value) :
    (b.setValue id change).handles = b.handles := rfl

theorem resolve_some {b : World} {v : View} {value : Value} (resolved : b.resolve v = some value) :
    ∃ object whole, b.objects[v.object]? = some object ∧ object.value = some whole ∧
      value = fun rest => whole (v.path ++ rest) := by
  simp only [resolve,Option.map_eq_some_iff,Option.bind_eq_some_iff] at resolved
  obtain ⟨whole,⟨object,found,alive⟩,rfl⟩ := resolved
  exact ⟨object,whole,found,alive,rfl⟩

theorem resolve_of {b : World} {v : View} {object : Object} {whole : Value}
    (found : b.objects[v.object]? = some object) (alive : object.value = some whole) :
    b.resolve v = some fun rest => whole (v.path ++ rest) := by
  simp [resolve,found,alive]

end World

/-- What the objects are like for pointers: pointers into them stay good while types and addresses do. -/
theorem Points.mono {addr addr' : Nat → Addr} {objects objects' : List Object} {T : CType} {v : View}
    {p : Pointer} (points : Points addr objects T v p)
    (kept : ∀ (id : Nat) object, objects[id]? = some object →
      addr' id = addr id ∧ ∃ object', objects'[id]? = some object' ∧ object'.type = object.type) :
    Points addr' objects' T v p := by
  obtain ⟨object,o,found,named,nonnull,rfl⟩ := points
  obtain ⟨same,object',found',type⟩ := kept _ _ found
  exact ⟨object',o,found',by rw [type]; exact named,by rw [same]; exact nonnull,by rw [same]⟩

theorem Matches.mono {addr addr' : Nat → Addr} {objects objects' : List Object} {h : Handle}
    {x : Proxy} (matched : Matches addr objects h x)
    (kept : ∀ (id : Nat) object, objects[id]? = some object →
      addr' id = addr id ∧ ∃ object', objects'[id]? = some object' ∧ object'.type = object.type) :
    Matches addr' objects' h x := by
  cases matched with
  | disposed T => exact .disposed T
  | refers T v p points => exact .refers T v p (points.mono kept)

theorem Points.nonnull {addr : Nat → Addr} {objects : List Object} {T : CType} {v : View} {p : Pointer}
    (points : Points addr objects T v p) : p ≠ .null := by
  obtain ⟨_,_,_,_,nonnull,rfl⟩ := points
  simp [Pointer.null,nonnull]

theorem Points.below {addr : Nat → Addr} {objects : List Object} {T U : CType} {v : View}
    {p : Pointer} {rest : List Nat} {o : Nat} (points : Points addr objects T v p)
    (inner : T.place rest = some (o,U)) (owner : Bool) :
    Points addr objects U ⟨v.object,v.path ++ rest,owner⟩ (p.plus o) := by
  obtain ⟨object,a,found,named,nonnull,rfl⟩ := points
  exact ⟨object,a + o,found,place_append named inner,nonnull,rfl⟩

theorem place_single {T U : CType} {i o : Nat} (found : T.member i = some (o,U)) :
    T.place [i] = some (o,U) :=
  place_cons.mpr ⟨o,U,0,found,rfl,rfl⟩

theorem Points.member {addr : Nat → Addr} {objects : List Object} {T U : CType} {v : View}
    {p : Pointer} {i o : Nat} (points : Points addr objects T v p) (found : T.member i = some (o,U)) :
    Points addr objects U (v.member i) (p.plus o) :=
  points.below (place_single found) false

namespace Represents

variable {addr : Nat → Addr} {s : Process} {b : World} {T : CType} {v : View} {p : Pointer}

theorem load (rep : Represents addr s b) (points : Points addr b.objects T v p) {value : Value}
    (resolved : b.resolve v = some value) :
    ∃ bytes, Proxies.load s.heap p T = some bytes ∧ Holds T bytes value := by
  obtain ⟨object,whole,found,alive,rfl⟩ := World.resolve_some resolved
  obtain ⟨object',o,found',named,_,rfl⟩ := points
  obtain rfl := Option.some.inj (found.symm.trans found')
  obtain ⟨bytes,block,holds⟩ := rep.stored _ _ _ found alive
  have fits := (place_inside named).1
  rw [← holds.sized] at fits
  exact ⟨_,Mem.read_of_block block fits,holds.part named⟩

/-- A change of one object's value that the heap follows. -/
theorem setValue (rep : Represents addr s b) {m : Heap} {id : Nat}
    {change : Option Value → Option Value} {object : Object} {whole : Value} {cells : Option (List UInt8)}
    (found : b.objects[id]? = some object) (alive : object.value = some whole)
    (block : m.block (addr id) = cells) (frame : ∀ a, a ≠ addr id → m.block a = s.heap.block a)
    (holds : ∀ value, change (some whole) = some value →
      ∃ bytes, cells = some bytes ∧ Holds object.type bytes value)
    (gone : change (some whole) = none → cells = none) :
    Represents addr { s with heap := m } (b.setValue id change) := by
  have live_before : ∀ id', (b.setValue id change).Live id' → b.Live id' := by
    rintro id' ⟨object',value,found',alive'⟩
    rw [World.setValue_objects] at found'
    obtain ⟨before,same,rfl⟩ := Option.map_eq_some_iff.mp found'
    by_cases eq : id = id'
    · subst eq
      exact ⟨object,whole,found,alive⟩
    · rw [if_neg eq] at alive'
      exact ⟨before,value,same,alive'⟩
  refine ⟨rep.lengths,?_,?_,?_,?_⟩
  · intro r h x handle proxy
    refine (rep.handles r h x handle proxy).mono ?_
    intro id' object' same
    refine ⟨rfl,?_⟩
    rw [World.setValue_objects,same]
    by_cases eq : id = id' <;> simp [eq]
  · intro id' object' value found' alive'
    rw [World.setValue_objects] at found'
    obtain ⟨before,same,rfl⟩ := Option.map_eq_some_iff.mp found'
    by_cases eq : id = id'
    · subst eq
      obtain rfl := Option.some.inj (found.symm.trans same)
      simp only [↓reduceIte,alive] at alive' ⊢
      rw [block]
      exact holds value alive'
    · rw [if_neg eq] at alive' ⊢
      have apart : addr id' ≠ addr id := fun clash =>
        eq (rep.separate id' id ⟨before,value,same,alive'⟩ ⟨object,whole,found,alive⟩ clash).symm
      obtain ⟨bytes,there,holds⟩ := rep.stored _ _ _ same alive'
      exact ⟨bytes,(frame _ apart).trans there,holds⟩
  · intro i j liveI liveJ
    exact rep.separate i j (live_before i liveI) (live_before j liveJ)
  · intro a alloc
    by_cases eq : a = addr id
    · subst eq
      cases value : change (some whole) with
      | none => exact absurd (block.trans (gone value)) alloc
      | some after =>
        refine ⟨id,⟨{ object with value := some after },after,?_,rfl⟩,rfl⟩
        simp [World.setValue_objects,found,alive,value]
    · rw [show ({ s with heap := m } : Process).heap = m from rfl,frame a eq] at alloc
      obtain ⟨id',⟨object',value,found',alive'⟩,rfl⟩ := rep.tight a alloc
      have different : id ≠ id' := fun same => eq (by rw [same])
      refine ⟨id',⟨object',value,?_,alive'⟩,rfl⟩
      simp [World.setValue_objects,found',different]

/-- A store through a good pointer replaces the part it points to, in the heap as in the world. -/
theorem store (rep : Represents addr s b) (points : Points addr b.objects T v p) {old part : Value}
    {data : List UInt8} (resolved : b.resolve v = some old) (holds : Holds T data part) :
    ∃ m, Proxies.store s.heap p data = some m ∧
      Represents addr { s with heap := m } (b.assign v part) := by
  obtain ⟨object,whole,found,alive,rfl⟩ := World.resolve_some resolved
  obtain ⟨object',o,found',named,_,rfl⟩ := points
  obtain rfl := Option.some.inj (found.symm.trans found')
  obtain ⟨bytes,block,before⟩ := rep.stored _ _ _ found alive
  have fits := (place_inside named).1
  rw [← before.sized,← holds.sized] at fits
  obtain ⟨m,stored⟩ := Mem.write_some (w := ⟨addr v.object,o,data⟩) block fits
  obtain ⟨cells,block',_,after,frame⟩ := Mem.write_cases stored
  obtain rfl := Option.some.inj (block.symm.trans block')
  refine ⟨m,stored,rep.setValue found alive after frame ?_ ?_⟩
  · rintro value same
    obtain rfl := Option.some.inj same
    exact ⟨_,rfl,before.replace holds named⟩
  · intro none
    contradiction

/-- `delete` on an object that is there and not a part of another. -/
theorem delete (rep : Represents addr s b) (points : Points addr b.objects T v p) {old : Value}
    (resolved : b.resolve v = some old) (root : v.path = []) :
    ∃ m, Proxies.delete s.heap p = some m ∧
      Represents addr { s with heap := m } (b.release v.object) := by
  obtain ⟨object,whole,found,alive,rfl⟩ := World.resolve_some resolved
  have nonnull := points.nonnull
  obtain ⟨object',o,found',named,_,rfl⟩ := points
  obtain rfl := Option.some.inj (found.symm.trans found')
  rw [root] at named
  obtain ⟨rfl,rfl⟩ := Prod.mk.inj (Option.some.inj named)
  obtain ⟨bytes,block,_⟩ := rep.stored _ _ _ found alive
  obtain ⟨m,freed⟩ := Mem.free_some (show s.heap.block (addr v.object) ≠ none by simp [block])
  obtain ⟨_,dead,frame⟩ := Mem.free_cases freed
  refine ⟨m,?_,rep.setValue found alive dead frame ?_ (fun _ => rfl)⟩
  · rw [Proxies.delete,if_neg nonnull,if_pos rfl]
    exact freed
  · intro value same
    contradiction

end Represents

end IGCL.Proxies
