import IGCLWrapper.DriverProtocol
import IGCLWrapper.PanelDump

/-! `GetPanelDescriptor` against a runtime that follows the documented protocol: for which displays
it is defined, and what it prints for these. -/
namespace IGCL.Samples.Panel

open BlockMemory ExitLabel

variable {t : Target} {ε : Type} {host : Host t} {hDisplayOutput : CtlDisplayOutputHandle t}
  {D : UInt32 → List UInt8} {s : Sample Line}

def extensionCount (D : UInt32 → List UInt8) : Nat := ((D 0).getD 126 0).toNat

/-- Every runtime along the way reads the base block and the extension blocks it announces as
documented; `D` gives their contents. -/
structure Describes (host : Host t) (hDisplayOutput : CtlDisplayOutputHandle t)
    (D : UInt32 → List UInt8) : Prop where
  follows : ∀ n number, number.toNat ≤ extensionCount D → PanelProtocol
    (ctlPanelDescriptorAccess ((host.runtime n).map (·.toRuntime)) hDisplayOutput) number (D number)
  bound : ∀ number : UInt32, number.toNat ≤ extensionCount D → (D number).length < 0x100000000

theorem extension_known {blockIndex : Nat} (below : blockIndex < extensionCount D) :
    (UInt32.ofNat (blockIndex + 1)).toNat ≤ extensionCount D := by
  have few := ((D 0).getD 126 0).toNat_lt
  have whole : (UInt32.ofNat (blockIndex + 1)).toNat = blockIndex + 1 := by
    apply UInt32.toNat_ofNat_of_lt'
    change blockIndex + 1 < 0x100000000
    unfold extensionCount at below
    omega
  omega

theorem access_query (describes : Describes host hDisplayOutput D) {number : UInt32}
    (known : number.toNat ≤ extensionCount D) (s : Sample Line) :
    (access host hDisplayOutput (readRequest t number 0 0) : Body ε _ _) s =
      some (.ok ⟨.success,readRequest t number (UInt32.ofNat (D number).length) 0⟩,
        { s with calls := s.calls + 1 }) := by
  have reply := (describes.follows s.calls number known).query (readRequest t number 0 0) s.heap rfl rfl rfl
  simp only [access,call,Body.act,reply,Mem.writes_nil,Option.map_some]
  rfl

theorem access_delivers (describes : Describes host hDisplayOutput D) {number : UInt32}
    (known : number.toNat ≤ extensionCount D) (m : Heap) (f : Fresh m)
    (size : f.cells.length = (D number).length) (printed : List Line) (calls : Nat) (gResult : CtlResult) :
    let args := readRequest t number (UInt32.ofNat (D number).length) f.addr
    (access host hDisplayOutput args : Body ε _ _) ⟨m.alloc f,calls,printed,gResult⟩ =
      some (.ok ⟨.success,args⟩,
        ⟨m.set f.addr f.nonnull (some (D number)),calls + 1,printed,gResult⟩) := by
  intro args
  have reply := (describes.follows calls number known).delivers args (m.alloc f) rfl rfl rfl f.nonnull
  have stored : (m.alloc f).writes [⟨args.pDescriptorData,0,D number⟩] =
      some (m.set f.addr f.nonnull (some (D number))) := by
    rw [Mem.writes_singleton]
    exact Mem.write_fresh f size
  simp only [access,call,Body.act,reply,stored,Option.map_some]

/-- What is printed for one extension block, `rows` bytes of it. -/
def extensionLines (D : UInt32 → List UInt8) (rows blockIndex : Nat) : List Line :=
  let number := UInt32.ofNat (blockIndex + 1)
  .extensionDataSize (UInt32.ofNat (D number).length) :: .dataOnBlock number ::
    ((D number).take rows).map .byte

/-- A turn of the loop is defined when the block has the rows of the base block, and then it leaves
memory as it was. -/
theorem readExtensionBlock_eq (describes : Describes host hDisplayOutput D)
    (base : CtlPanelDescriptorAccessArgs) {blockIndex : Nat} (below : blockIndex < extensionCount D)
    (result : CtlResult) {f : Fresh s.heap}
    (granted : host.malloc.grant s.heap (D (UInt32.ofNat (blockIndex + 1))).length = some f) :
    readExtensionBlock host hDisplayOutput base blockIndex result s =
      if wholeRows base.descriptorDataSize.toNat ≤ (D (UInt32.ofNat (blockIndex + 1))).length ∧
          base.descriptorDataSize.toNat ≤ 0xfffffff0 then
        some (.ok .success,
          { more s (extensionLines D (wholeRows base.descriptorDataSize.toNat) blockIndex) with
            calls := s.calls + 2 })
      else none := by
  obtain ⟨m,calls,printed,g⟩ := s
  have known := extension_known below
  have length := UInt32.toNat_ofNat_of_lt' (describes.bound _ known)
  refine (Body.bind_ok (access_query describes known _)).trans ?_
  refine (Body.bind_ok (logAndExitOnError_passed _ _ _)).trans ?_
  refine (Body.bind_ok (print_eq _ _)).trans ?_
  refine (Body.bind_ok (malloc_eq (f := f) (length.symm ▸ granted) _ _ _)).trans ?_
  refine (Body.bind_ok (exitOnMemAllocFailure_passed f.nonnull _ _ _)).trans ?_
  refine (Body.bind_ok (access_delivers describes known m f (host.malloc.sized granted) _ _ _)).trans ?_
  refine (congrFun (if_neg (not_not.mpr rfl)) _).trans ?_
  refine (Body.bind_ok (print_eq _ _)).trans ?_
  have dump := printData_eq (ε := Answer CtlPanelDescriptorAccessArgs)
    (s := more ⟨m.set f.addr f.nonnull (some (D (UInt32.ofNat (blockIndex + 1)))),calls + 1 + 1,
      printed ++ [.extensionDataSize (UInt32.ofNat (D (UInt32.ofNat (blockIndex + 1))).length)],g⟩
      [.dataOnBlock (UInt32.ofNat (blockIndex + 1))])
    (Mem.block_set_self m f.addr f.nonnull _) base.descriptorDataSize
  by_cases room : wholeRows base.descriptorDataSize.toNat ≤ (D (UInt32.ofNat (blockIndex + 1))).length ∧
      base.descriptorDataSize.toNat ≤ 0xfffffff0
  · rw [if_pos room] at dump ⊢
    refine (Body.bind_ok dump).trans ?_
    refine (Body.bind_ok (ctlFreeMem_eq f.nonnull f.dead _ rfl)).trans ?_
    simp [more,extensionLines]
  · rw [if_neg room] at dump ⊢
    exact Body.bind_undefined dump

/-- The descriptor blocks that the sample can print: whole rows and an extension count in the base
block, and no extension block shorter than the base block. -/
def Printable (D : UInt32 → List UInt8) : Prop :=
  16 ∣ (D 0).length ∧ 126 < (D 0).length ∧
    ∀ k, k < extensionCount D → (D 0).length ≤ (D (UInt32.ofNat (k + 1))).length

instance (D : UInt32 → List UInt8) : Decidable (Printable D) := by
  unfold Printable; infer_instance

def blockLines (D : UInt32 → List UInt8) : List Line :=
  (D 0).map .byte ++
    if extensionCount D = 0 then [.noExtensionBlock]
    else (List.range (extensionCount D)).flatMap (extensionLines D (D 0).length)

def transcript (D : UInt32 → List UInt8) : List Line :=
  .descriptorDataSize (UInt32.ofNat (D 0).length) :: .dataOnBlock 0 :: blockLines D

theorem wholeRows_le_iff {size : Nat} (bound : size < 0x100000000) :
    wholeRows size ≤ size ∧ size ≤ 0xfffffff0 ↔ 16 ∣ size := by
  unfold wholeRows
  omega

theorem wholeRows_eq {size : Nat} (whole : 16 ∣ size) : wholeRows size = size := by
  unfold wholeRows
  omega

def afterBlocks (D : UInt32 → List UInt8) (s : Sample Line) (k : Nat) : Sample Line :=
  { more s ((List.range k).flatMap (extensionLines D (D 0).length)) with calls := s.calls + 2 * k }

/-- The loop over the extension blocks, from a base block of whole rows. -/
theorem readExtensionBlocks_eq (describes : Describes host hDisplayOutput D)
    (base : CtlPanelDescriptorAccessArgs)
    (size : base.descriptorDataSize = UInt32.ofNat (D 0).length) (whole : 16 ∣ (D 0).length)
    (roomy : ∀ k, k < extensionCount D →
      ∃ f, host.malloc.grant s.heap (D (UInt32.ofNat (k + 1))).length = some f) :
    Body.countUp (readExtensionBlock host hDisplayOutput base) (extensionCount D) 0 .success s =
      if ∀ k, k < extensionCount D → (D 0).length ≤ (D (UInt32.ofNat (k + 1))).length then
        some (.ok .success,afterBlocks D s (extensionCount D))
      else none := by
  have bound := describes.bound 0 (Nat.zero_le _)
  have start : afterBlocks D s 0 = s := by simp [afterBlocks]
  have turn (k : Nat) (below : k < extensionCount D) :
      readExtensionBlock host hDisplayOutput base k .success (afterBlocks D s k) =
        if (D 0).length ≤ (D (UInt32.ofNat (k + 1))).length then
          some (.ok .success,afterBlocks D s (k + 1))
        else none := by
    obtain ⟨f,granted⟩ := roomy k below
    have single := readExtensionBlock_eq (s := afterBlocks D s k) describes base below .success granted
    rw [size,UInt32.toNat_ofNat_of_lt' bound,wholeRows_eq whole] at single
    rw [single]
    refine if_congr (by omega) ?_ rfl
    simp [afterBlocks,more,List.range_succ]
    omega
  by_cases fits : ∀ k, k < extensionCount D → (D 0).length ≤ (D (UInt32.ofNat (k + 1))).length
  · rw [if_pos fits]
    have all := Body.countUp_along (readExtensionBlock host hDisplayOutput base) (fun _ => .success)
      (afterBlocks D s) (extensionCount D) 0 fun k _ below => by
        rw [turn k (by omega),if_pos (fits k (by omega))]
    rw [start,Nat.zero_add] at all
    exact all
  · rw [if_neg fits]
    obtain ⟨last,short⟩ := Classical.not_forall.mp fits
    obtain ⟨below,short⟩ := Classical.not_imp.mp short
    have stuck := Body.countUp_stuck (readExtensionBlock host hDisplayOutput base) (fun _ => .success)
      (afterBlocks D s) (extensionCount D) 0
      (fun k => (D 0).length ≤ (D (UInt32.ofNat (k + 1))).length)
      (fun k _ within fit => by rw [turn k (by omega),if_pos fit])
      (fun k _ within misfit => by rw [turn k (by omega),if_neg misfit])
      (Nat.zero_le last) (by omega) short
    rw [start] at stuck
    exact stuck

/-- What is left of the body of `GetPanelDescriptor` when the base block has been read. -/
def afterRead (host : Host t) (hDisplayOutput : CtlDisplayOutputHandle t)
    (read : Answer CtlPanelDescriptorAccessArgs) :
    Body (Answer CtlPanelDescriptorAccessArgs) (Sample Line) (Answer CtlPanelDescriptorAccessArgs) := do
  printData read.out.pDescriptorData read.out.descriptorDataSize
  let numberOfExtnBlocks ← loadByte read.out.pDescriptorData 126
  if numberOfExtnBlocks = 0 then
    print .noExtensionBlock
    Body.goto read
  else
    let result ← Body.countUp (readExtensionBlock host hDisplayOutput read.out)
      numberOfExtnBlocks.toNat 0 read.code
    pure ⟨result,read.out⟩

def baseRead (t : Target) (D : UInt32 → List UInt8) (data : Addr) : CtlPanelDescriptorAccessArgs :=
  readRequest t 0 (UInt32.ofNat (D 0).length) data

theorem readPanel_eq (describes : Describes host hDisplayOutput D) (m : Heap) (calls : Nat)
    (printed : List Line) (g : CtlResult) {base : Fresh m}
    (granted : host.malloc.grant m (D 0).length = some base) :
    readPanel host hDisplayOutput (readRequest t 0 0 0) ⟨m,calls,printed,g⟩ =
      afterRead host hDisplayOutput ⟨.success,baseRead t D base.addr⟩
        ⟨m.set base.addr base.nonnull (some (D 0)),calls + 2,
          printed ++ [.descriptorDataSize (UInt32.ofNat (D 0).length),.dataOnBlock 0],g⟩ := by
  have length := UInt32.toNat_ofNat_of_lt' (describes.bound 0 (Nat.zero_le _))
  refine (Body.bind_ok (access_query describes (Nat.zero_le _) _)).trans ?_
  refine (Body.bind_ok (logAndExitOnError_passed _ _ _)).trans ?_
  refine (Body.bind_ok (print_eq _ _)).trans ?_
  refine (Body.bind_ok (malloc_eq (f := base) (length.symm ▸ granted) _ _ _)).trans ?_
  refine (Body.bind_ok (exitOnMemAllocFailure_passed base.nonnull _ _ _)).trans ?_
  have delivered := access_delivers (ε := Answer CtlPanelDescriptorAccessArgs) describes (Nat.zero_le _)
    m base (host.malloc.sized granted)
  refine (Body.bind_ok (delivered _ _ _)).trans ?_
  refine (Body.bind_ok (logAndExitOnError_passed _ _ _)).trans ?_
  refine (Body.bind_ok (print_eq _ _)).trans ?_
  simp [more,afterRead,baseRead,readRequest]

/-- The rest of the body is defined for printable blocks only. It comes to the label by a jump when
there is no extension block, else by its end, with the same locals. -/
theorem afterRead_eq (describes : Describes host hDisplayOutput D) {data : Addr}
    (alive : s.heap.block data = some (D 0))
    (roomy : ∀ k, k < extensionCount D →
      ∃ f, host.malloc.grant s.heap (D (UInt32.ofNat (k + 1))).length = some f) :
    let read : Answer CtlPanelDescriptorAccessArgs := ⟨.success,baseRead t D data⟩
    afterRead host hDisplayOutput read s =
      if Printable D then
        some (if extensionCount D = 0 then .error read else .ok read,
          { more s (blockLines D) with calls := s.calls + 2 * extensionCount D })
      else none := by
  intro read
  have bound := describes.bound 0 (Nat.zero_le _)
  have dump := printData_eq (ε := Answer CtlPanelDescriptorAccessArgs) alive (UInt32.ofNat (D 0).length)
  rw [UInt32.toNat_ofNat_of_lt' bound] at dump
  by_cases whole : 16 ∣ (D 0).length
  · rw [if_pos ((wholeRows_le_iff bound).mpr whole),wholeRows_eq whole,List.take_length] at dump
    refine (Body.bind_ok dump).trans ?_
    by_cases counted : 126 < (D 0).length
    · have load := loadByte_eq (ε := Answer CtlPanelDescriptorAccessArgs)
        (s := more s ((D 0).map .byte)) alive counted
      have count : ((D 0).get ⟨126,counted⟩).toNat = extensionCount D := by
        simp [extensionCount,List.getD_eq_getElem?_getD,counted]
      refine (Body.bind_ok load).trans ?_
      by_cases no_blocks : extensionCount D = 0
      · have zero : (D 0).get ⟨126,counted⟩ = 0 := UInt8.toNat_inj.mp (count.trans no_blocks)
        have printable : Printable D := ⟨whole,counted,fun k below => by omega⟩
        refine (congrFun (if_pos zero) _).trans ?_
        refine (Body.bind_ok (print_eq _ _)).trans ?_
        rw [if_pos printable,if_pos no_blocks]
        simp [more,blockLines,no_blocks]
      · have nonzero : (D 0).get ⟨126,counted⟩ ≠ 0 := fun zero => no_blocks (by rw [← count,zero]; rfl)
        refine (congrFun (if_neg nonzero) _).trans ?_
        have loop := readExtensionBlocks_eq (s := more s ((D 0).map .byte)) describes
          (baseRead t D data) rfl whole roomy
        rw [count]
        by_cases fits : ∀ k, k < extensionCount D → (D 0).length ≤ (D (UInt32.ofNat (k + 1))).length
        · rw [if_pos fits] at loop
          refine (Body.bind_ok loop).trans ?_
          rw [if_pos ⟨whole,counted,fits⟩,if_neg no_blocks]
          simp [more,blockLines,no_blocks,afterBlocks,read]
        · rw [if_neg fits] at loop
          rw [if_neg fun printable => fits printable.2.2]
          exact Body.bind_undefined loop
    · rw [if_neg fun printable => counted printable.2.1]
      exact Body.bind_undefined (loadByte_outside (s := more s ((D 0).map .byte)) alive (by omega))
  · rw [if_neg (mt (wholeRows_le_iff bound).mp whole)] at dump
    rw [if_neg fun printable => whole printable.1]
    exact Body.bind_undefined dump

/-- With memory for each block, the sample is defined exactly for printable displays. It prints their
base block, then each extension block cut to the size of the base block, and leaves memory as it found
it. -/
theorem getPanelDescriptor_prints (describes : Describes host hDisplayOutput D) (base : Fresh s.heap)
    (granted : host.malloc.grant s.heap (D 0).length = some base)
    (roomy : ∀ k, k < extensionCount D → ∃ f, host.malloc.grant
      (s.heap.set base.addr base.nonnull (some (D 0))) (D (UInt32.ofNat (k + 1))).length = some f) :
    (getPanelDescriptor host hDisplayOutput (readRequest t 0 0 0) : Body ε (Sample Line) _) s =
      if Printable D then
        some (.ok ⟨.success,readRequest t 0 (UInt32.ofNat (D 0).length) 0⟩,
          { more s (transcript D) with calls := s.calls + 2 + 2 * extensionCount D })
      else none := by
  obtain ⟨m,calls,printed,g⟩ := s
  have body := (readPanel_eq describes m calls printed g granted).trans
    (afterRead_eq describes (Mem.block_set_self m base.addr base.nonnull _) roomy)
  by_cases printable : Printable D
  · rw [if_pos printable] at body ⊢
    have released := ctlFreeMem_eq (ε := ε) base.nonnull base.dead (D 0)
      (s := { more ⟨m.set base.addr base.nonnull (some (D 0)),calls + 2,
        printed ++ [.descriptorDataSize (UInt32.ofNat (D 0).length),.dataOnBlock 0],g⟩ (blockLines D) with
        calls := calls + 2 + 2 * extensionCount D }) rfl
    have lines : printed ++ [.descriptorDataSize (UInt32.ofNat (D 0).length),.dataOnBlock 0] ++
        blockLines D = printed ++ transcript D := by simp [transcript]
    simp only [more,lines] at body released ⊢
    by_cases no_blocks : extensionCount D = 0
    · rw [if_pos no_blocks] at body
      exact (Body.label_jump body).trans (Body.bind_ok released)
    · rw [if_neg no_blocks] at body
      exact (Body.label_ok body).trans (Body.bind_ok released)
  · rw [if_neg printable] at body ⊢
    exact Body.label_undefined body

def announcingBlock : List UInt8 := List.replicate 126 0 ++ [1,0]

def announcingHost : Host Target.x64 where
  runtime _ := some { documentedRuntime [] announcingBlock with
    ctlEnumerateDevices := none, ctlGetDisplayProperties := none, ctlEdidManagement := none }
  malloc := mallocTwo
  memcpyS := CheckedBuffer.memmoveS

theorem announcingHost_describes : Describes announcingHost 0 fun _ => announcingBlock where
  follows _ number _ := documentedRuntime_describes [] announcingBlock (by simp [announcingBlock])
    (by simp [announcingBlock]) 0 number
  bound _ _ := by simp [announcingBlock]

theorem two_blocks_printed :
    (getPanelDescriptor announcingHost 0 (readRequest .x64 0 0 0) : Body Empty (Sample Line) _)
        ⟨Mem.empty,0,[],.success⟩ =
      some (.ok ⟨.success,readRequest .x64 0 128 0⟩,
        ⟨Mem.empty,4,transcript fun _ => announcingBlock,.success⟩) := by
  have printed := getPanelDescriptor_prints (ε := Empty) (s := ⟨Mem.empty,0,[],.success⟩)
    announcingHost_describes ⟨1,List.replicate 128 0xcd,Nat.one_ne_zero,rfl⟩ rfl
    fun _ _ => ⟨⟨2,List.replicate 128 0xcd,(by decide),rfl⟩,rfl⟩
  rw [if_pos (by decide +kernel)] at printed
  exact printed

end IGCL.Samples.Panel
