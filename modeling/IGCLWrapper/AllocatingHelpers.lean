import IGCLWrapper.ControlApi

/-! The two helpers of `IGCLWrapper.i` that allocate for the caller, the plain enumeration
helper next to them, and the helper that frees. The driver may change between the two
calls of one helper, so each call is answered by its own runtime. A run has no result when
the driver stores outside a live block. -/
namespace IGCL

open BlockMemory

variable {t : Target}

/-- State after an allocating helper: its code, the caller's in/out cell (`*pArgs`, `*pCount`),
the caller's out cell (`*pBuffer`, `*ppDisplays`), and for each driver call made the in/out
argument and the array pointer it carried. -/
structure HelperResult (γ : Type) where
  code : CtlResult
  inOut : Option γ
  out : Option Addr
  heap : Heap
  calls : List (γ × Addr)

def panelQueryArgs (t : Target) (args : CtlPanelDescriptorAccessArgs) : CtlPanelDescriptorAccessArgs :=
  { args with
    size := UInt32.ofNat t.sizeofPanelDescriptorAccessArgs
    descriptorDataSize := 0
    pDescriptorData := 0 }

@[simp] theorem panelQueryArgs_descriptorDataSize (t : Target) (args : CtlPanelDescriptorAccessArgs) :
    (panelQueryArgs t args).descriptorDataSize = 0 := rfl

@[simp] theorem panelQueryArgs_pDescriptorData (t : Target) (args : CtlPanelDescriptorAccessArgs) :
    (panelQueryArgs t args).pDescriptorData = 0 := rfl

/-- `IGCL_GetPanelDescriptor`. Null pointer arguments are `none`. `*pBuffer` is written only once there is
a block, and the second call gets `*pArgs` as the query left it. -/
def igclGetPanelDescriptor (phase1 phase2 : Option (Runtime t)) (malloc : Malloc)
    (hDisplay : CtlDisplayOutputHandle t) (pArgs : Option CtlPanelDescriptorAccessArgs)
    (pBuffer : Option Addr) (m : Heap) : Option (HelperResult CtlPanelDescriptorAccessArgs) :=
  match pArgs, pBuffer with
  | some args, some buffer =>
    let args := panelQueryArgs t args
    let query := ctlPanelDescriptorAccess phase1 hDisplay args m
    (m.writes query.stores).bind fun m₁ =>
      if query.code ≠ .success ∨ query.out.descriptorDataSize = 0 then
        some ⟨query.code,some query.out,some buffer,m₁,[(args,args.pDescriptorData)]⟩
      else
        match malloc.grant m₁ query.out.descriptorDataSize.toNat with
        | none =>
          some ⟨.errorOutOfHostMemory,some query.out,some 0,m₁,[(args,args.pDescriptorData)]⟩
        | some block =>
          let m₂ := m₁.alloc block
          let read := ctlPanelDescriptorAccess phase2 hDisplay query.out m₂
          (m₂.writes read.stores).bind fun m₃ =>
            some ⟨read.code,some read.out,some block.addr,m₃,
              [(args,args.pDescriptorData),(query.out,query.out.pDescriptorData)]⟩
  | _, _ => some ⟨.errorInvalidNullPointer,pArgs,pBuffer,m,[]⟩

/-- `IGCL_EnumerateDisplays`: the driver's own enumeration, unchanged. -/
def igclEnumerateDisplays (hinstLib : Option (Runtime t)) (hAdapter : CtlDeviceAdapterHandle t)
    (count : UInt32) (pDisplays : Addr) (m : Heap) : Reply UInt32 :=
  ctlEnumerateDisplayOutputs hinstLib hAdapter count pDisplays m

/-- `IGCL_EnumDisplays`. The query is made with whatever count the caller's cell holds. -/
def igclEnumDisplays (phase1 phase2 : Option (Runtime t)) (malloc : Malloc)
    (hAdapter : CtlDeviceAdapterHandle t) (pCount : Option UInt32) (ppDisplays : Option Addr)
    (m : Heap) : Option (HelperResult UInt32) :=
  match pCount, ppDisplays with
  | some count, some _ =>
    let query := ctlEnumerateDisplayOutputs phase1 hAdapter count 0 m
    (m.writes query.stores).bind fun m₁ =>
      if query.code ≠ .success ∨ query.out = 0 then
        some ⟨query.code,some query.out,some 0,m₁,[(count,0)]⟩
      else
        match malloc.grant m₁ (t.sizeMul t.pointerBytes query.out.toNat) with
        | none => some ⟨.errorOutOfHostMemory,some query.out,some 0,m₁,[(count,0)]⟩
        | some block =>
          let m₂ := m₁.alloc block
          let read := ctlEnumerateDisplayOutputs phase2 hAdapter query.out block.addr m₂
          (m₂.writes read.stores).bind fun m₃ =>
            some ⟨read.code,some read.out,some block.addr,m₃,[(count,0),(query.out,block.addr)]⟩
  | _, _ => some ⟨.errorInvalidNullPointer,pCount,ppDisplays,m,[]⟩

/-- The two-call enumeration the tests write out: a zero count and a null array first, then an
array of the reported length. A refused array ends it like a failed call. -/
def enumerateExplicitly (phase1 phase2 : Option (Runtime t)) (malloc : Malloc)
    (hAdapter : CtlDeviceAdapterHandle t) (m : Heap) : Option (HelperResult UInt32) :=
  let query := igclEnumerateDisplays phase1 hAdapter 0 0 m
  (m.writes query.stores).bind fun m₁ =>
    if query.code = .success ∧ query.out ≠ 0 then
      match malloc.grant m₁ (t.sizeMul t.pointerBytes query.out.toNat) with
      | none => some ⟨.errorOutOfHostMemory,some query.out,some 0,m₁,[(0,0)]⟩
      | some array =>
        let m₂ := m₁.alloc array
        let read := igclEnumerateDisplays phase2 hAdapter query.out array.addr m₂
        (m₂.writes read.stores).bind fun m₃ =>
          some ⟨read.code,some read.out,some array.addr,m₃,[(0,0),(query.out,array.addr)]⟩
    else some ⟨query.code,some query.out,some 0,m₁,[(0,0)]⟩

/-- `IGCL_FreeBuffer`. Freeing anything but null or a live block has no result. -/
def igclFreeBuffer (ptr : Addr) (m : Heap) : Option Heap :=
  if ptr ≠ 0 then m.free ptr else some m

@[simp] theorem igclFreeBuffer_null (m : Heap) : igclFreeBuffer 0 m = some m := rfl

/-- The null checks come first: no driver call, no allocation, both cells as they were. -/
theorem null_arguments_rejected (phase1 phase2 : Option (Runtime t)) (malloc : Malloc)
    (handle : t.Handle) (pArgs : Option CtlPanelDescriptorAccessArgs) (pCount : Option UInt32)
    (pOut : Option Addr) (m : Heap) :
    (pArgs = none ∨ pOut = none → igclGetPanelDescriptor phase1 phase2 malloc handle pArgs pOut m =
      some ⟨.errorInvalidNullPointer,pArgs,pOut,m,[]⟩) ∧
    (pCount = none ∨ pOut = none → igclEnumDisplays phase1 phase2 malloc handle pCount pOut m =
      some ⟨.errorInvalidNullPointer,pCount,pOut,m,[]⟩) := by
  constructor
  · intro either
    rcases either with rfl | rfl
    · rfl
    · cases pArgs <;> rfl
  · intro either
    rcases either with rfl | rfl
    · rfl
    · cases pCount <;> rfl

end IGCL
