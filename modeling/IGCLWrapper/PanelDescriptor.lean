import IGCLWrapper.DriverProtocol

/-! The panel descriptor helper under the documented two-call protocol: what its second
driver call carries, and when the caller still ends up with the descriptor. -/
namespace IGCL

open BlockMemory

variable {t : Target}

/-- The caller got the descriptor: success, a live block holding exactly `d`, its length in `*pArgs`. -/
def Delivered (d : List UInt8) (r : HelperResult CtlPanelDescriptorAccessArgs) : Prop :=
  r.code = .success ∧ (∃ p, r.out = some p ∧ r.heap.block p = some d) ∧
    ∃ args, r.inOut = some args ∧ args.descriptorDataSize = UInt32.ofNat d.length

/-- The argument block of the second call after a size query that reported `d.length`. -/
def panelReadArgs (t : Target) (args : CtlPanelDescriptorAccessArgs) (d : List UInt8) :
    CtlPanelDescriptorAccessArgs :=
  { panelQueryArgs t args with descriptorDataSize := UInt32.ofNat d.length }

section Run

variable (phase1 phase2 : Option (Runtime t)) (malloc : Malloc) (hDisplay : CtlDisplayOutputHandle t)
  (args : CtlPanelDescriptorAccessArgs) (buffer : Addr) (m : Heap) (d : List UInt8)

/-- The whole outcome when the size query follows the protocol: the new block goes to the out
cell, the second call carries a null buffer, and a protocol driver then stores nothing. -/
theorem getPanelDescriptor_outcome (nonempty : d ≠ []) (bound : d.length < 2 ^ 32)
    (isRead : args.opType = .read)
    (follows1 : PanelProtocol (ctlPanelDescriptorAccess phase1 hDisplay) args.blockNumber d)
    (follows2 : PanelProtocol (ctlPanelDescriptorAccess phase2 hDisplay) args.blockNumber d)
    (block : Fresh m) (granted : malloc.grant m d.length = some block) :
    let reply := ctlPanelDescriptorAccess phase2 hDisplay (panelReadArgs t args d) (m.alloc block)
    igclGetPanelDescriptor phase1 phase2 malloc hDisplay (some args) (some buffer) m =
      some ⟨reply.code,some reply.out,some block.addr,m.alloc block,
        [(panelQueryArgs t args,0),(panelReadArgs t args d,0)]⟩ := by
  have positive := descriptor_length_nonzero nonempty bound
  have query : ctlPanelDescriptorAccess phase1 hDisplay (panelQueryArgs t args) m =
      ⟨.success,panelReadArgs t args d,[]⟩ := follows1.query _ m isRead rfl rfl
  have requested : (UInt32.ofNat d.length).toNat = d.length := UInt32.toNat_ofNat_of_lt' bound
  have silent : (ctlPanelDescriptorAccess phase2 hDisplay (panelReadArgs t args d)
      (m.alloc block)).stores = [] := follows2.null_buffer _ _ isRead rfl positive rfl
  have size : (panelReadArgs t args d).descriptorDataSize = UInt32.ofNat d.length := rfl
  simp only [igclGetPanelDescriptor,query,Mem.writes_nil,Option.bind_some,size,positive,ne_eq,
    not_true_eq_false,or_self,if_false]
  rw [requested,granted]
  simp only [silent,Mem.writes_nil,Option.bind_some]
  rfl

/-- The second driver call never carries the block, so the caller gets the descriptor only if
the fresh block already held it and the driver calls the null buffer a success. The out cell is one
of the caller's own and not a field of `*pArgs`. -/
theorem getPanelDescriptor_delivers_iff (nonempty : d ≠ []) (bound : d.length < 2 ^ 32)
    (isRead : args.opType = .read)
    (follows1 : PanelProtocol (ctlPanelDescriptorAccess phase1 hDisplay) args.blockNumber d)
    (follows2 : PanelProtocol (ctlPanelDescriptorAccess phase2 hDisplay) args.blockNumber d)
    (block : Fresh m) (granted : malloc.grant m d.length = some block) :
    ∃ r, igclGetPanelDescriptor phase1 phase2 malloc hDisplay (some args) (some buffer) m = some r ∧
      (∃ call, r.calls[1]? = some call ∧ call.1.pDescriptorData = 0 ∧ r.out ≠ some 0) ∧
      (Delivered d r ↔ block.cells = d ∧
        (ctlPanelDescriptorAccess phase2 hDisplay (panelReadArgs t args d) (m.alloc block)).code =
          .success ∧
        (ctlPanelDescriptorAccess phase2 hDisplay (panelReadArgs t args d)
          (m.alloc block)).out.descriptorDataSize = UInt32.ofNat d.length) := by
  refine ⟨_,getPanelDescriptor_outcome phase1 phase2 malloc hDisplay args buffer m d nonempty bound
    isRead follows1 follows2 block granted,⟨_,rfl,rfl,?_⟩,?_⟩
  · simp [block.nonnull]
  · constructor
    · intro given
      obtain ⟨ok,⟨p,atCell,content⟩,out,atArgs,size⟩ := given
      obtain rfl := Option.some.inj atCell
      obtain rfl := Option.some.inj atArgs
      rw [Mem.block_alloc_self] at content
      exact ⟨Option.some.inj content,ok,size⟩
    · intro given
      obtain ⟨content,ok,size⟩ := given
      refine ⟨ok,⟨_,rfl,?_⟩,_,rfl,size⟩
      rw [Mem.block_alloc_self,content]

end Run

def edidHeader : List UInt8 := [0x00,0xff,0xff,0xff,0xff,0xff,0xff,0x00]

def edidRequest : CtlPanelDescriptorAccessArgs := ⟨0,0,.read,0,0,0⟩

theorem edid_header_iff :
    ∃ r, igclGetPanelDescriptor (some (documentedRuntime [] edidHeader))
        (some (documentedRuntime [] edidHeader)) (mallocAt 1 Nat.one_ne_zero 0xcd) (0 : Target.x64.Handle)
        (some edidRequest) (some 0) Mem.empty = some r ∧ ¬Delivered edidHeader r := by
  have describes := documentedRuntime_describes ([] : List Target.x64.Handle) edidHeader (by decide)
    (by decide) 0 0
  obtain ⟨r,completed,_,delivered⟩ := getPanelDescriptor_delivers_iff (some (documentedRuntime [] edidHeader))
    (some (documentedRuntime [] edidHeader)) (mallocAt 1 Nat.one_ne_zero 0xcd) (0 : Target.x64.Handle)
    edidRequest 0 Mem.empty edidHeader (by decide) (by decide) rfl describes describes
    ⟨1,List.replicate 8 0xcd,Nat.one_ne_zero,rfl⟩ rfl
  refine ⟨r,completed,?_⟩
  intro gotIt
  exact absurd (delivered.mp gotIt).1 (by decide)

/-- A runtime that holds the EDID header, one that calls the null buffer an error: the caller is
left with an error code and the bytes `malloc` found. -/
theorem edid_header_lost :
    PanelProtocol (ctlPanelDescriptorAccess (some (documentedRuntime ([] : List Target.x64.Handle)
      edidHeader)) 0) edidRequest.blockNumber edidHeader ∧
    ∃ r, igclGetPanelDescriptor (some (documentedRuntime [] edidHeader))
        (some (documentedRuntime [] edidHeader)) (mallocAt 1 Nat.one_ne_zero 0xcd) (0 : Target.x64.Handle)
        (some edidRequest) (some 0) Mem.empty = some r ∧ ¬Delivered edidHeader r ∧
      r.code = .errorInvalidNullPointer ∧ r.out = some 1 ∧
      r.heap.block 1 = some (List.replicate 8 0xcd) := by
  refine ⟨documentedRuntime_describes [] edidHeader (by decide) (by decide) 0 0,_,rfl,?_,rfl,rfl,rfl⟩
  intro gotIt
  exact absurd gotIt.1 (by decide)

end IGCL
