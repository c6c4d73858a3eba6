import IGCLWrapper.CLayout
import IGCLWrapper.ControlApi
import IGCLWrapper.FaultMachine

/-! The C# objects that SWIG generates for the structures of `igcl_api.h`, over the native heap. An
object is a pointer and a flag that says whether the object frees what it points to; a property of
structure type answers with an object that points into its owner. -/
namespace IGCL.Proxies

open BlockMemory CLayout

/-- A block and an offset in it. Null, and what C computes from null, is in block zero. -/
structure Pointer where
  block : Addr
  offset : Nat
  deriving DecidableEq, Repr

def Pointer.null : Pointer := ⟨0,0⟩

def Pointer.plus (p : Pointer) (offset : Nat) : Pointer := ⟨p.block,p.offset + offset⟩

@[simp] theorem Pointer.plus_zero (p : Pointer) : p.plus 0 = p := rfl

/-- An object of the proxy class of a structure or union, or of a `SWIGTYPE_p_` class, which never
owns. `type` is the C type it points to. -/
structure Proxy where
  type : CType
  swigCPtr : Pointer
  swigCMemOwn : Bool

structure Process where
  proxies : List Proxy
  heap : Heap

abbrev Ref := Nat

/-- What C# code does with proxies. References that may be null are options. Properties of a string type
(inline character arrays among them), of a pointer type and of the members of a union are left out. -/
inductive Action where
  | construct (T : CType)
  /-- `IGCL.new_XP()` and the other functions of `%pointer_functions`. -/
  | newP (T : CType)
  | copyP (value : Option Ref)
  | assignP (obj value : Option Ref)
  | valueP (obj : Option Ref)
  | deleteP (obj : Option Ref)
  /-- `IGCL.wcharP_value`, whose result is a `SWIGTYPE_p_WCHAR`, a class that forgets the owning flag. -/
  | wcharPValue (obj : Option Ref)
  /-- `IGCL.igcl_uint32P_assign` and the others for C# value types. -/
  | assignScalarP (obj : Option Ref) (data : List UInt8)
  | scalarPValue (obj : Option Ref)
  /-- A property of a C# value type. -/
  | get (r : Ref) (i : Nat)
  | set (r : Ref) (i : Nat) (data : List UInt8)
  /-- A property of structure, union or array type. -/
  | view (r : Ref) (i : Nat)
  | store (r : Ref) (i : Nat) (value : Option Ref)
  | dispose (r : Ref)

inductive Answer where
  | done
  | made (r : Ref)
  | null
  | data (bytes : List UInt8)
  | argumentNullException
  deriving DecidableEq, Repr

/-- The class of what a property answers with: for an array, that of a pointer to its first element. -/
def pointee : CType → CType
  | .array elem _ => elem
  | T => T

def load (m : Heap) (p : Pointer) (T : CType) : Option (List UInt8) := m.read p.block p.offset T.size

def store (m : Heap) (p : Pointer) (data : List UInt8) : Option Heap :=
  m.write ⟨p.block,p.offset,data⟩

/-- `delete p`; a pointer into a block or to no live block corrupts the heap. -/
def delete (m : Heap) (p : Pointer) : Option Heap :=
  if p = .null then some m else if p.offset = 0 then m.free p.block else none

/-- One turn of the loop in the setter of an array property. -/
def copyElement (elem : CType) (b arg2 : Pointer) (m : Heap) (ii : Nat) : Option Heap :=
  (load m (arg2.plus (ii * elem.size)) elem).bind (store m (b.plus (ii * elem.size)))

def copyElements (elem : CType) (count : Nat) (b arg2 : Pointer) (m : Heap) : Option Heap :=
  (List.range count).foldlM (copyElement elem b arg2) m

/-- `if (arg1) (arg1)->member = *arg2;` -/
def storeWhole (m : Heap) (arg1 : Pointer) (offset : Nat) (arg2 : Pointer) (U : CType) : Option Heap :=
  if arg1 = .null then some m else (load m arg2 U).bind (store m (arg1.plus offset))

/-- The setter of a structure, union or array property at `offset`. Only an array setter goes on with
a null `arg1`, and none tests `arg2`. -/
def storeMember (m : Heap) (arg1 : Pointer) (offset : Nat) (arg2 : Pointer) : CType → Option Heap
  | .array elem count => copyElements elem count (arg1.plus offset) arg2 m
  | U => storeWhole m arg1 offset arg2 U

namespace Process

def start : Process := ⟨[],Mem.empty⟩

/-- `getCPtr`, and the type of the class it is called on where the reference is not null. -/
def getCPtr (s : Process) : Option Ref → Option Pointer
  | none => some .null
  | some r => s.proxies[r]?.map (·.swigCPtr)

def make (s : Process) (proxy : Proxy) : Answer × Process :=
  (.made s.proxies.length,{ s with proxies := s.proxies ++ [proxy] })

/-- `new T` with the given contents. `std::bad_alloc` is caught nowhere and ends the process. -/
def allocate (new : Allocator UInt8) (s : Process) (T : CType) (own : Bool) (bytes : List UInt8) :
    Option (Answer × Process) :=
  (new.grant s.heap T.size).map fun f =>
    make { s with heap := s.heap.set f.addr f.nonnull (some bytes) } ⟨T,⟨f.addr,0⟩,own⟩

def allocateZero (new : Allocator UInt8) (s : Process) (T : CType) (own : Bool) :
    Option (Answer × Process) :=
  s.allocate new T own (List.replicate T.size 0)

def dispose (s : Process) (r : Ref) : Option Process :=
  s.proxies[r]?.bind fun x =>
    if x.swigCPtr = .null then some s
    else
      (if x.swigCMemOwn then delete s.heap x.swigCPtr else some s.heap).map fun m =>
        ⟨s.proxies.set r { x with swigCPtr := .null, swigCMemOwn := false },m⟩

/-- A non-owning proxy, or null for a null pointer. -/
def wrap (s : Process) (T : CType) (p : Pointer) : Answer × Process :=
  if p = .null then (.null,s) else s.make ⟨T,p,false⟩

def step (new : Allocator UInt8) (s : Process) : Action → Option (Answer × Process)
  | .construct T => s.allocateZero new T true
  | .newP T => s.allocateZero new T false
  | .copyP none => some (.argumentNullException,s)
  | .copyP (some value) => s.proxies[value]?.bind fun y =>
    if y.swigCPtr = .null then some (.argumentNullException,s)
    else (load s.heap y.swigCPtr y.type).bind (s.allocate new y.type false)
  | .assignP _ none => some (.argumentNullException,s)
  | .assignP obj (some value) => s.proxies[value]?.bind fun y =>
    if y.swigCPtr = .null then some (.argumentNullException,s)
    else (s.getCPtr obj).bind fun p =>
      ((load s.heap y.swigCPtr y.type).bind (store s.heap p)).map fun m => (.done,{ s with heap := m })
  | .valueP none => none
  | .valueP (some obj) => s.proxies[obj]?.bind fun x =>
    (load s.heap x.swigCPtr x.type).bind (s.allocate new x.type true)
  | .deleteP obj => (s.getCPtr obj).bind fun p =>
    (delete s.heap p).map fun m => (.done,{ s with heap := m })
  | .wcharPValue none => none
  | .wcharPValue (some obj) => s.proxies[obj]?.bind fun x =>
    (load s.heap x.swigCPtr x.type).bind (s.allocate new x.type false)
  | .assignScalarP obj data => (s.getCPtr obj).bind fun p =>
    (store s.heap p data).map fun m => (.done,{ s with heap := m })
  | .scalarPValue none => none
  | .scalarPValue (some obj) => s.proxies[obj]?.bind fun x =>
    (load s.heap x.swigCPtr x.type).map fun bytes => (.data bytes,s)
  | .get r i => s.proxies[r]?.bind fun x => (x.type.member i).bind fun field =>
    (load s.heap (x.swigCPtr.plus field.1) field.2).map fun bytes => (.data bytes,s)
  | .set r i data => s.proxies[r]?.bind fun x => (x.type.member i).bind fun field =>
    if x.swigCPtr = .null then some (.done,s)
    else (store s.heap (x.swigCPtr.plus field.1) data).map fun m => (.done,{ s with heap := m })
  | .view r i => s.proxies[r]?.bind fun x => (x.type.member i).map fun field =>
    s.wrap (pointee field.2) (x.swigCPtr.plus field.1)
  | .store r i value => s.proxies[r]?.bind fun x => (x.type.member i).bind fun field =>
    (s.getCPtr value).bind fun arg2 =>
      (storeMember s.heap x.swigCPtr field.1 arg2 field.2).map fun m => (.done,{ s with heap := m })
  | .dispose r => (s.dispose r).map fun s' => (.done,s')

/-- What the C# compiler has checked, and that memory does not run out. -/
def allows (new : Allocator UInt8) (s : Process) : Action → Prop
  | .construct T => (new.grant s.heap T.size).isSome
  | .newP T => (new.grant s.heap T.size).isSome
  | .copyP value => ∀ r ∈ value, ∀ y ∈ s.proxies[r]?, (new.grant s.heap y.type.size).isSome
  | .assignP obj value => ∀ r ∈ obj, ∀ x ∈ s.proxies[r]?, ∀ r' ∈ value, ∀ y ∈ s.proxies[r']?,
    x.type = y.type
  | .valueP obj => ∀ r ∈ obj, ∀ x ∈ s.proxies[r]?, (new.grant s.heap x.type.size).isSome
  | .deleteP _ => True
  | .wcharPValue obj => ∀ r ∈ obj, ∀ x ∈ s.proxies[r]?, (new.grant s.heap x.type.size).isSome
  | .assignScalarP obj data => ∀ r ∈ obj, ∀ x ∈ s.proxies[r]?,
    ∃ k n, x.type = .cell k n ∧ data.length = n * 2 ^ k
  | .scalarPValue obj => ∀ r ∈ obj, ∀ x ∈ s.proxies[r]?, ∃ k n, x.type = .cell k n
  | .get r i => ∀ x ∈ s.proxies[r]?, ∃ o k n, x.type.member i = some (o,.cell k n)
  | .set r i data => ∀ x ∈ s.proxies[r]?,
    ∃ o k n, x.type.member i = some (o,.cell k n) ∧ data.length = n * 2 ^ k
  | .view r i => ∀ x ∈ s.proxies[r]?, ∃ o U, x.type.member i = some (o,U) ∧ 0 < U.size
  | .store r i value => ∀ x ∈ s.proxies[r]?, ∃ o U, x.type.member i = some (o,U) ∧
    ∀ r' ∈ value, ∀ y ∈ s.proxies[r']?, y.type = pointee U
  | .dispose _ => True

end Process

end IGCL.Proxies
