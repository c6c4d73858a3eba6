import IGCLWrapper.ApiStructs
import IGCLWrapper.Proxies

/-! The helpers of `IGCLWrapper.i` that fill in the size of the caller's argument structure, some of
them its version too, and forward. -/
namespace IGCL

open BlockMemory CLayout Proxies

variable {t : Target}

abbrev ArgsCall (t : Target) := t.Handle → Pointer → Heap → Reply Unit

structure ArgsRuntime (t : Target) where
  ctlGetDisplayProperties : Option (ArgsCall t)
  ctlGetDeviceProperties : Option (ArgsCall t)
  ctlI2CAccess : Option (ArgsCall t)
  ctlAUXAccess : Option (ArgsCall t)
  ctlGetSetDynamicContrastEnhancement : Option (ArgsCall t)
  ctlWaitForPropertyChange : Option (ArgsCall t)

/-- The API wrapper around such an entry point, as for the others in `cApiWrapper.cpp`. -/
def forwardArgs (hinstLib : Option (ArgsRuntime t)) (getProcAddress : ArgsRuntime t → Option (ArgsCall t))
    (handle : t.Handle) (pArgs : Pointer) (m : Heap) : Reply Unit :=
  match hinstLib.bind getProcAddress with
  | none => ⟨.errorNotInitialized,(),[]⟩
  | some pfn => pfn handle pArgs m

/-- `pArgs->member = data` for the member `i` of `T`. -/
def setMember (T : CType) (i : Nat) (data : List UInt8) (pArgs : Pointer) (m : Heap) : Option Heap :=
  (T.member i).bind fun field => store m (pArgs.plus field.1) data

/-- The body the helpers share: `Size` is member 0 and `Version` member 1. -/
def sizedHelper (T : CType) (version : Option UInt8) (api : Pointer → Heap → Reply Unit)
    (pArgs : Pointer) (m : Heap) : Option (CtlResult × Heap) :=
  if pArgs = .null then some (.errorInvalidNullPointer,m)
  else
    (setMember T 0 (littleEndian 4 T.size) pArgs m).bind fun m₁ =>
      (match version with
        | none => some m₁
        | some v => setMember T 1 [v] pArgs m₁).bind fun m₂ =>
        let reply := api pArgs m₂
        (m₂.writes reply.stores).map fun m₃ => (reply.code,m₃)

def igclGetDisplayProperties (hinstLib : Option (ArgsRuntime t)) (hDisplay : CtlDisplayOutputHandle t) :
    Pointer → Heap → Option (CtlResult × Heap) :=
  sizedHelper t.ctlDisplayProperties (some 1) (forwardArgs hinstLib (·.ctlGetDisplayProperties) hDisplay)

def igclGetAdapterProperties (hinstLib : Option (ArgsRuntime t)) (hAdapter : CtlDeviceAdapterHandle t) :
    Pointer → Heap → Option (CtlResult × Heap) :=
  sizedHelper t.ctlDeviceAdapterProperties (some 1)
    (forwardArgs hinstLib (·.ctlGetDeviceProperties) hAdapter)

def igclI2CAccess (hinstLib : Option (ArgsRuntime t)) (hDisplay : CtlDisplayOutputHandle t) :
    Pointer → Heap → Option (CtlResult × Heap) :=
  sizedHelper ctlI2cAccessArgs none (forwardArgs hinstLib (·.ctlI2CAccess) hDisplay)

def igclAUXAccess (hinstLib : Option (ArgsRuntime t)) (hDisplay : CtlDisplayOutputHandle t) :
    Pointer → Heap → Option (CtlResult × Heap) :=
  sizedHelper ctlAuxAccessArgs none (forwardArgs hinstLib (·.ctlAUXAccess) hDisplay)

def igclGetSetDCE (hinstLib : Option (ArgsRuntime t)) (hDisplay : CtlDisplayOutputHandle t) :
    Pointer → Heap → Option (CtlResult × Heap) :=
  sizedHelper t.ctlDceArgs (some 1)
    (forwardArgs hinstLib (·.ctlGetSetDynamicContrastEnhancement) hDisplay)

def igclWaitForDisplayChange (hinstLib : Option (ArgsRuntime t)) (hAdapter : CtlDeviceAdapterHandle t) :
    Pointer → Heap → Option (CtlResult × Heap) :=
  sizedHelper t.ctlWaitPropertyChangeArgs none
    (forwardArgs hinstLib (·.ctlWaitForPropertyChange) hAdapter)

structure Versioned (T : CType) : Prop where
  size : T.member 0 = some (0,uint32)
  version : T.member 1 = some (4,uint8)

/-- The caller's block once its structure at `offset` is filled in, byte by byte. -/
structure FilledIn (T : CType) (version : Option UInt8) (offset : Nat) (before after : List UInt8) :
    Prop where
  sized : after.length = before.length
  sizeIn : slice after offset 4 = littleEndian 4 T.size
  versionIn : ∀ v ∈ version, after[offset + 4]? = some v
  others : ∀ i, ¬ (offset ≤ i ∧ i < offset + 4) → ¬ (version.isSome ∧ i = offset + 4) →
    after[i]? = before[i]?

theorem filledIn_size {T : CType} {offset : Nat} {cells : List UInt8}
    (fits : offset + 4 ≤ cells.length) :
    FilledIn T none offset cells (Mem.splice cells offset (littleEndian 4 T.size)) := by
  have width := littleEndian_length 4 T.size
  have fits' : offset + (littleEndian 4 T.size).length ≤ cells.length := by omega
  refine ⟨Mem.splice_length _ _ _ fits',?_,by simp,?_⟩
  · have filled := slice_splice_inside (p := 0) (k := 4) fits' (by omega)
    rw [Nat.add_zero] at filled
    rw [filled,slice,List.drop_zero,List.take_of_length_le (by omega)]
  · intro i outside _
    exact Mem.splice_get?_outside fits' (by omega)

theorem FilledIn.withVersion {T : CType} {offset : Nat} {before after : List UInt8} {v : UInt8}
    (filled : FilledIn T none offset before after) (fits : offset + 5 ≤ before.length) :
    FilledIn T (some v) offset before (Mem.splice after (offset + 4) [v]) := by
  have fits' : offset + 4 + [v].length ≤ after.length := by
    rw [filled.sized,List.length_singleton]
    omega
  refine ⟨(Mem.splice_length _ _ _ fits').trans filled.sized,?_,?_,?_⟩
  · rw [slice_splice_apart fits' (.inr (by omega))]
    exact filled.sizeIn
  · intro w same
    obtain rfl := Option.some.inj same
    exact Mem.splice_get?_start fits'
  · intro i outside other
    have elsewhere : i ≠ offset + 4 := fun same => other ⟨rfl,same⟩
    rw [Mem.splice_get?_outside fits' (by rw [List.length_singleton]; omega)]
    exact filled.others i outside (by simp)

theorem setMember_cases {T : CType} {i o : Nat} {U : CType} (data : List UInt8) {p : Pointer} {m : Heap}
    {cells : List UInt8} (field : T.member i = some (o,U)) (alive : m.block p.block = some cells)
    (fits : p.offset + o + data.length ≤ cells.length) :
    ∃ m', setMember T i data p m = some m' ∧
      m'.block p.block = some (Mem.splice cells (p.offset + o) data) ∧
      ∀ b, b ≠ p.block → m'.block b = m.block b := by
  obtain ⟨m',stored⟩ := Mem.write_some (w := ⟨p.block,p.offset + o,data⟩) alive fits
  obtain ⟨_,found,_,written,frame⟩ := Mem.write_cases stored
  obtain rfl := Option.some.inj (alive.symm.trans found)
  refine ⟨m',?_,written,frame⟩
  rw [setMember,field]
  exact stored

/-- A caller with a good pointer gets the driver's answer, and the driver sees the caller's structure
filled in. -/
theorem sizedHelper_forwards {T : CType} (versioned : Versioned T) (version : Option UInt8)
    (api : Pointer → Heap → Reply Unit) {p : Pointer} {m : Heap} {cells : List UInt8}
    (alive : m.block p.block = some cells) (fits : p.offset + T.size ≤ cells.length) :
    ∃ (seen : Heap) (after : List UInt8), seen.block p.block = some after ∧
      FilledIn T version p.offset cells after ∧
      (∀ b, b ≠ p.block → seen.block b = m.block b) ∧
      sizedHelper T version api p m =
        (seen.writes (api p seen).stores).map fun m' => ((api p seen).code,m') := by
  have nonnull : p ≠ .null := by
    rintro rfl
    exact Mem.live_nonnull alive rfl
  have room : 4 + 1 ≤ T.size := (member_inside versioned.version).1
  have filled : FilledIn T none p.offset cells _ := filledIn_size (by omega)
  obtain ⟨m₁,first,written,frame⟩ := setMember_cases (littleEndian 4 T.size) versioned.size
    alive (by rw [littleEndian_length]; omega)
  cases version with
  | none => exact ⟨m₁,_,written,filled,frame,by simp [sizedHelper,nonnull,first]⟩
  | some v =>
    obtain ⟨m₂,second,written₂,frame₂⟩ := setMember_cases [v] versioned.version written
      (by rw [p.offset.add_zero,filled.sized,List.length_singleton]; omega)
    refine ⟨m₂,_,written₂,filled.withVersion (by omega),?_,
      by simp [sizedHelper,nonnull,first,second]⟩
    intro b ne
    rw [frame₂ b ne,frame b ne]

/-- The six helpers, with their argument type, the version they fill in and the entry point. -/
inductive SizedHelper (t : Target) : CType → Option UInt8 → (ArgsRuntime t → Option (ArgsCall t)) →
    (Option (ArgsRuntime t) → t.Handle → Pointer → Heap → Option (CtlResult × Heap)) → Prop where
  | getDisplayProperties : SizedHelper t t.ctlDisplayProperties (some 1) (·.ctlGetDisplayProperties)
      igclGetDisplayProperties
  | getAdapterProperties : SizedHelper t t.ctlDeviceAdapterProperties (some 1)
      (·.ctlGetDeviceProperties) igclGetAdapterProperties
  | i2cAccess : SizedHelper t ctlI2cAccessArgs none (·.ctlI2CAccess) igclI2CAccess
  | auxAccess : SizedHelper t ctlAuxAccessArgs none (·.ctlAUXAccess) igclAUXAccess
  | getSetDCE : SizedHelper t t.ctlDceArgs (some 1) (·.ctlGetSetDynamicContrastEnhancement)
      igclGetSetDCE
  | waitForDisplayChange : SizedHelper t t.ctlWaitPropertyChangeArgs none
      (·.ctlWaitForPropertyChange) igclWaitForDisplayChange

theorem SizedHelper.versioned {T : CType} {version : Option UInt8}
    {entry : ArgsRuntime t → Option (ArgsCall t)}
    {helper : Option (ArgsRuntime t) → t.Handle → Pointer → Heap → Option (CtlResult × Heap)}
    (member : SizedHelper t T version entry helper) : Versioned T := by
  cases member <;> exact ⟨rfl,rfl⟩

theorem SizedHelper.body {T : CType} {version : Option UInt8}
    {entry : ArgsRuntime t → Option (ArgsCall t)}
    {helper : Option (ArgsRuntime t) → t.Handle → Pointer → Heap → Option (CtlResult × Heap)}
    (member : SizedHelper t T version entry helper) (hinstLib : Option (ArgsRuntime t))
    (handle : t.Handle) :
    helper hinstLib handle = sizedHelper T version (forwardArgs hinstLib entry handle) := by
  cases member <;> rfl

/-- Every helper hands the driver the caller's own structure, with the size filled in and, for three
of them, the version, and every other byte as it was; a null pointer is refused and nothing is touched.
Without a library the caller gets `CTL_RESULT_ERROR_NOT_INITIALIZED`, and finds size and version filled
in all the same. -/
theorem sized_helpers_forward {T : CType} {version : Option UInt8}
    {entry : ArgsRuntime t → Option (ArgsCall t)}
    {helper : Option (ArgsRuntime t) → t.Handle → Pointer → Heap → Option (CtlResult × Heap)}
    (member : SizedHelper t T version entry helper) (hinstLib : Option (ArgsRuntime t))
    (handle : t.Handle) {p : Pointer} {m : Heap} {cells : List UInt8}
    (alive : m.block p.block = some cells) (fits : p.offset + T.size ≤ cells.length) :
    helper hinstLib handle .null m = some (.errorInvalidNullPointer,m) ∧
    ∃ (seen : Heap) (after : List UInt8), seen.block p.block = some after ∧
      FilledIn T version p.offset cells after ∧
      (∀ b, b ≠ p.block → seen.block b = m.block b) ∧
      (∀ pfn, hinstLib.bind entry = some pfn → helper hinstLib handle p m =
        (seen.writes (pfn handle p seen).stores).map fun m' => ((pfn handle p seen).code,m')) ∧
      (hinstLib.bind entry = none →
        helper hinstLib handle p m = some (.errorNotInitialized,seen)) := by
  rw [member.body]
  refine ⟨if_pos rfl,?_⟩
  obtain ⟨seen,after,block,filled,frame,same⟩ := sizedHelper_forwards member.versioned version
    (forwardArgs hinstLib entry handle) alive fits
  refine ⟨seen,after,block,filled,frame,?_,?_⟩
  · intro pfn found
    rw [same,forwardArgs,found]
  · intro missing
    rw [same,forwardArgs,missing]
    rfl

/-- A block with the arguments of `IGCL_GetSetDCE` at its byte 8, all of its bytes `0xcd`. -/
def dceBlock : Heap :=
  Mem.set Mem.empty 64 (Nat.succ_ne_zero 63) (some (List.replicate (8 + Target.x64.ctlDceArgs.size) 0xcd))

theorem dce_not_initialized :
    ∃ (seen : Heap) (after : List UInt8), seen.block 64 = some after ∧
      FilledIn Target.x64.ctlDceArgs (some 1) 8
        (List.replicate (8 + Target.x64.ctlDceArgs.size) 0xcd) after ∧
      igclGetSetDCE none (0 : Target.x64.Handle) ⟨64,8⟩ dceBlock = some (.errorNotInitialized,seen) := by
  obtain ⟨_,seen,after,block,filled,_,_,missing⟩ :=
    sized_helpers_forward .getSetDCE none (0 : Target.x64.Handle) (p := ⟨64,8⟩) (m := dceBlock)
      (Mem.block_set_self _ _ _ _) (by rw [List.length_replicate])
  exact ⟨seen,after,block,filled,missing rfl⟩

end IGCL
