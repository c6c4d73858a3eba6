import IGCLWrapper.ProxyValues

/-! The generated classes implement the world of objects: whatever a client with a right to an answer
does, the native code answers it alike, disposing included, and the heap holds the objects that are
not released and nothing else. -/
namespace IGCL.Proxies

open BlockMemory CLayout FaultMachine

theorem concat_cases {α : Type} {l : List α} {x y : α} {i : Nat} (found : (l ++ [x])[i]? = some y) :
    l[i]? = some y ∨ i = l.length ∧ y = x := by
  rcases Nat.lt_trichotomy i l.length with before | rfl | after
  · left
    rwa [List.getElem?_append_left before] at found
  · right
    simpa [eq_comm] using found
  · rw [List.getElem?_eq_none (by simp; omega)] at found
    contradiction

theorem found_concat {α : Type} {l : List α} {x y : α} {i : Nat} (found : l[i]? = some y) :
    (l ++ [x])[i]? = some y := by
  obtain ⟨bound,_⟩ := List.getElem?_eq_some_iff.mp found
  rw [List.getElem?_append_left bound]
  exact found

namespace World

variable {b : World}

theorem resolve_member {v : View} {value : Value} (resolved : b.resolve v = some value) (i : Nat) :
    b.resolve (v.member i) = some fun rest => value (i :: rest) := by
  obtain ⟨object,whole,found,alive,rfl⟩ := resolve_some resolved
  simp [resolve,View.member,found,alive]

theorem Owned.setValue (owned : b.Owned) {id : Nat} {change : Option Value → Option Value}
    (kept : ∀ object value, b.objects[id]? = some object → object.value = some value →
      object.collected = true → ∃ value', change (some value) = some value')
    (gone : change none = none) : (b.setValue id change).Owned where
  root := by
    intro r v owns
    obtain ⟨root,object,value,found,alive,collected⟩ := owned.root r v owns
    refine ⟨root,?_⟩
    rw [setValue_objects,found]
    by_cases same : id = v.object
    · subst same
      obtain ⟨value',after⟩ := kept object value found alive collected
      exact ⟨{ object with value := some value' },value',by simp [alive,after],rfl,collected⟩
    · exact ⟨object,value,by simp [same],alive,collected⟩
  unique := owned.unique
  accounted := by
    intro id' object value found alive collected
    rw [setValue_objects] at found
    obtain ⟨before,there,rfl⟩ := Option.map_eq_some_iff.mp found
    by_cases same : id = id'
    · rw [if_pos same] at alive collected
      cases was : before.value with
      | none => simp [was,gone] at alive
      | some value' => exact owned.accounted id' before value' there was collected
    · rw [if_neg same] at alive collected
      exact owned.accounted id' before value there alive collected

theorem Owned.assign (owned : b.Owned) (v : View) (part : Value) : (b.assign v part).Owned :=
  owned.setValue (fun _ _ _ _ _ => ⟨_,rfl⟩) rfl

theorem Owned.create (owned : b.Owned) (T : CType) (collected : Bool) (value : Value) :
    (b.create T collected value).2.Owned := by
  have cases : ∀ r v, (b.create T collected value).2.Owns r v → b.Owns r v ∨
      r = b.handles.length ∧ v = ⟨b.objects.length,[],collected⟩ ∧ collected = true := by
    rintro r v ⟨h,handle,view,owner⟩
    rcases concat_cases handle with old | ⟨here,rfl⟩
    · exact .inl ⟨h,old,view,owner⟩
    · obtain rfl := Option.some.inj view
      exact .inr ⟨here,rfl,owner⟩
  have old_apart : ∀ r v, b.Owns r v → v.object ≠ b.objects.length := by
    intro r v owns same
    obtain ⟨_,object,_,found,_⟩ := owned.root r v owns
    simp [same] at found
  refine ⟨?_,?_,?_⟩
  · intro r v owns
    rcases cases r v owns with old | ⟨_,rfl,rfl⟩
    · obtain ⟨root,object,value,found,rest⟩ := owned.root r v old
      exact ⟨root,object,value,found_concat found,rest⟩
    · exact ⟨rfl,⟨T,some value,true⟩,value,by simp [World.create],rfl,rfl⟩
  · intro r r' v v' owns owns' same
    rcases cases r v owns with old | ⟨here,rfl,_⟩ <;> rcases cases r' v' owns' with old' | ⟨here',rfl,_⟩
    · exact owned.unique r r' v v' old old' same
    · exact absurd same (old_apart r v old)
    · exact absurd same.symm (old_apart r' v' old')
    · rw [here,here']
  · intro id object value found alive collects
    rcases concat_cases found with old | ⟨here,rfl⟩
    · obtain ⟨r,v,⟨h,handle,rest⟩,object⟩ := owned.accounted id object value old alive collects
      exact ⟨r,v,⟨h,found_concat handle,rest⟩,object⟩
    · refine ⟨b.handles.length,⟨b.objects.length,[],collected⟩,?_,here.symm⟩
      exact ⟨⟨T,some ⟨b.objects.length,[],collected⟩⟩,by simp [World.create],rfl,collects⟩

/-- One more reference that does not own. -/
theorem Owned.refer (owned : b.Owned) (T : CType) (v : View) (borrowed : v.owner = false) :
    World.Owned { b with handles := b.handles ++ [⟨T,some v⟩] } := by
  have cases : ∀ r w, World.Owns { b with handles := b.handles ++ [⟨T,some v⟩] } r w → b.Owns r w := by
    rintro r w ⟨h,handle,view,owner⟩
    rcases concat_cases handle with old | ⟨_,rfl⟩
    · exact ⟨h,old,view,owner⟩
    · obtain rfl := Option.some.inj view
      rw [borrowed] at owner
      contradiction
  refine ⟨fun r w owns => owned.root r w (cases r w owns),?_,?_⟩
  · intro r r' w w' owns owns' same
    exact owned.unique r r' w w' (cases r w owns) (cases r' w' owns') same
  · intro id object value found alive collected
    obtain ⟨r,w,⟨h,handle,rest⟩,here⟩ := owned.accounted id object value found alive collected
    exact ⟨r,w,⟨h,found_concat handle,rest⟩,here⟩

/-- A closed owner takes its object with it; another reference leaves everything as it is. -/
theorem Owned.close (owned : b.Owned) {r : Ref} {h : Handle} {v : View}
    (handle : b.handles[r]? = some h) (view : h.view = some v) :
    World.Owned (if v.owner then
        World.release { b with handles := b.handles.set r ⟨h.type,none⟩ } v.object
      else { b with handles := b.handles.set r ⟨h.type,none⟩ }) := by
  have cases : ∀ r' w, World.Owns { b with handles := b.handles.set r ⟨h.type,none⟩ } r' w →
      b.Owns r' w ∧ r' ≠ r := by
    rintro r' w ⟨h',handle',view',owner⟩
    by_cases same : r = r'
    · subst same
      rw [List.getElem?_set_self (List.getElem?_eq_some_iff.mp handle).1] at handle'
      obtain rfl := Option.some.inj handle'
      contradiction
    · rw [List.getElem?_set_ne same] at handle'
      exact ⟨⟨h',handle',view',owner⟩,Ne.symm same⟩
  have back : ∀ r' w, b.Owns r' w → r' ≠ r →
      World.Owns { b with handles := b.handles.set r ⟨h.type,none⟩ } r' w := by
    rintro r' w ⟨h',handle',rest⟩ other
    exact ⟨h',by rw [List.getElem?_set_ne (Ne.symm other)]; exact handle',rest⟩
  by_cases owner : v.owner = true
  · rw [if_pos owner]
    have own : b.Owns r v := ⟨h,handle,view,owner⟩
    refine ⟨?_,?_,?_⟩
    · intro r' w owns
      obtain ⟨before,other⟩ := cases r' w owns
      obtain ⟨root,object,value,found,alive,collected⟩ := owned.root r' w before
      have apart : v.object ≠ w.object := fun same => other (owned.unique r' r w v before own same.symm)
      refine ⟨root,object,value,?_,alive,collected⟩
      rw [release,setValue_objects]
      simp [found,apart]
    · intro r' r'' w w' owns owns' same
      exact owned.unique r' r'' w w' (cases r' w owns).1 (cases r'' w' owns').1 same
    · intro id object value found alive collected
      rw [release,setValue_objects] at found
      obtain ⟨before,there,rfl⟩ := Option.map_eq_some_iff.mp found
      by_cases same : v.object = id
      · simp [same] at alive
      · rw [if_neg same] at alive collected
        obtain ⟨r',w,owns,here⟩ := owned.accounted id before value there alive collected
        refine ⟨r',w,back r' w owns ?_,here⟩
        rintro rfl
        obtain ⟨h',handle',view',_⟩ := owns
        obtain rfl := Option.some.inj (handle.symm.trans handle')
        obtain rfl := Option.some.inj (view.symm.trans view')
        exact same here
  · rw [if_neg owner]
    refine ⟨fun r' w owns => owned.root r' w (cases r' w owns).1,?_,?_⟩
    · intro r' r'' w w' owns owns' same
      exact owned.unique r' r'' w w' (cases r' w owns).1 (cases r'' w' owns').1 same
    · intro id object value found alive collected
      obtain ⟨r',w,owns,here⟩ := owned.accounted id object value found alive collected
      refine ⟨r',w,back r' w owns ?_,here⟩
      rintro rfl
      obtain ⟨h',handle',view',owner'⟩ := owns
      obtain rfl := Option.some.inj (handle.symm.trans handle')
      obtain rfl := Option.some.inj (view.symm.trans view')
      exact owner owner'

theorem Owned.copyElements {v w : View} {l : List Nat} {b' : World} (owned : b.Owned)
    (ran : l.foldlM (copyElement v w) b = some b') : b'.Owned := by
  induction l generalizing b with
  | nil =>
    obtain rfl := Option.some.inj ran
    exact owned
  | cons ii l ih =>
    rw [List.foldlM_cons] at ran
    obtain ⟨mid,first,rest⟩ := Option.bind_eq_some_iff.mp ran
    simp only [copyElement,Option.bind_eq_some_iff,Option.map_eq_some_iff] at first
    obtain ⟨_,_,_,_,_,_,rfl⟩ := first
    exact ih (owned.assign _ _) rest

theorem Owned.storeWhole {i : Nat} {value : Option Ref} {target : Option View} {b' : World}
    (owned : b.Owned) (ran : b.storeWhole i value target = some b') : b'.Owned := by
  cases target with
  | none =>
    simp only [World.storeWhole,Option.ite_none_right_eq_some,Option.some.injEq] at ran
    obtain ⟨_,rfl⟩ := ran
    exact owned
  | some v =>
    simp only [World.storeWhole,Option.bind_eq_some_iff,Option.map_eq_some_iff] at ran
    obtain ⟨_,_,_,_,_,_,rfl⟩ := ran
    exact owned.assign _ _

theorem Owned.storeMember {target : Option View} {i : Nat} {value : Option Ref} {U : CType}
    {b' : World} (owned : b.Owned) (ran : b.storeMember target i value U = some b') : b'.Owned := by
  cases U with
  | cell => exact owned.storeWhole ran
  | struct => exact owned.storeWhole ran
  | array elem count =>
    simp only [World.storeMember,Option.bind_eq_some_iff] at ran
    obtain ⟨_,_,_,_,copied⟩ := ran
    exact owned.copyElements copied

/-- Whatever the client does, each collected object keeps the one proxy that will release it. -/
theorem Owned.step {a : Action} {o : Answer} {b' : World} (owned : b.Owned)
    (ran : b.step a = some (o,b')) : b'.Owned := by
  cases a with
  | construct T =>
    obtain ⟨_,rfl⟩ := Prod.mk.inj (Option.some.inj ran)
    exact owned.create T true _
  | newP T =>
    obtain ⟨_,rfl⟩ := Prod.mk.inj (Option.some.inj ran)
    exact owned.create T false _
  | copyP value =>
    cases value with
    | none =>
      obtain ⟨_,rfl⟩ := Prod.mk.inj (Option.some.inj ran)
      exact owned
    | some r =>
      obtain ⟨h,_,ran⟩ := Option.bind_eq_some_iff.mp ran
      rcases h with ⟨T,view⟩
      cases view with
      | none =>
        obtain ⟨_,rfl⟩ := Prod.mk.inj (Option.some.inj ran)
        exact owned
      | some w =>
        obtain ⟨value,_,made⟩ := Option.map_eq_some_iff.mp ran
        obtain ⟨_,rfl⟩ := Prod.mk.inj made
        exact owned.create T false value
  | assignP obj value =>
    cases value with
    | none =>
      obtain ⟨_,rfl⟩ := Prod.mk.inj (Option.some.inj ran)
      exact owned
    | some r =>
      obtain ⟨h,_,ran⟩ := Option.bind_eq_some_iff.mp ran
      rcases h with ⟨T,view⟩
      cases view with
      | none =>
        obtain ⟨_,rfl⟩ := Prod.mk.inj (Option.some.inj ran)
        exact owned
      | some w =>
        simp only [Option.bind_eq_some_iff,Option.map_eq_some_iff] at ran
        obtain ⟨part,_,v,_,_,_,made⟩ := ran
        obtain ⟨_,rfl⟩ := Prod.mk.inj made
        exact owned.assign v part
  | valueP obj =>
    cases obj with
    | none => contradiction
    | some r =>
      simp only [World.step,Option.bind_eq_some_iff,Option.map_eq_some_iff] at ran
      obtain ⟨h,_,_,_,value,_,made⟩ := ran
      obtain ⟨_,rfl⟩ := Prod.mk.inj made
      exact owned.create h.type true value
  | deleteP obj =>
    cases obj with
    | none =>
      obtain ⟨_,rfl⟩ := Prod.mk.inj (Option.some.inj ran)
      exact owned
    | some r =>
      obtain ⟨h,_,ran⟩ := Option.bind_eq_some_iff.mp ran
      rcases h with ⟨T,view⟩
      cases view with
      | none =>
        obtain ⟨_,rfl⟩ := Prod.mk.inj (Option.some.inj ran)
        exact owned
      | some v =>
        simp only [Option.bind_eq_some_iff,Option.ite_none_right_eq_some,Option.some.injEq,
          Prod.mk.injEq] at ran
        obtain ⟨object,found,⟨_,_,manual⟩,_,rfl⟩ := ran
        refine owned.setValue ?_ rfl
        intro object' value found' _ collected
        obtain rfl := Option.some.inj (found.symm.trans found')
        rw [manual] at collected
        contradiction
  | wcharPValue obj =>
    cases obj with
    | none => contradiction
    | some r =>
      simp only [World.step,Option.bind_eq_some_iff,Option.map_eq_some_iff] at ran
      obtain ⟨h,_,_,_,value,_,made⟩ := ran
      obtain ⟨_,rfl⟩ := Prod.mk.inj made
      exact owned.create h.type false value
  | assignScalarP obj data =>
    simp only [World.step,Option.bind_eq_some_iff,Option.map_eq_some_iff] at ran
    obtain ⟨v,_,_,_,made⟩ := ran
    obtain ⟨_,rfl⟩ := Prod.mk.inj made
    exact owned.assign v _
  | scalarPValue obj =>
    simp only [World.step,Option.bind_eq_some_iff,Option.map_eq_some_iff] at ran
    obtain ⟨_,_,_,_,made⟩ := ran
    obtain ⟨_,rfl⟩ := Prod.mk.inj made
    exact owned
  | get r i =>
    simp only [World.step,Option.bind_eq_some_iff,Option.map_eq_some_iff] at ran
    obtain ⟨_,_,_,_,made⟩ := ran
    obtain ⟨_,rfl⟩ := Prod.mk.inj made
    exact owned
  | set r i data =>
    obtain ⟨h,_,ran⟩ := Option.bind_eq_some_iff.mp ran
    rcases h with ⟨T,view⟩
    cases view with
    | none =>
      obtain ⟨_,rfl⟩ := Prod.mk.inj (Option.some.inj ran)
      exact owned
    | some v =>
      obtain ⟨_,_,made⟩ := Option.map_eq_some_iff.mp ran
      obtain ⟨_,rfl⟩ := Prod.mk.inj made
      exact owned.assign _ _
  | view r i =>
    simp only [World.step,Option.bind_eq_some_iff,Option.map_eq_some_iff] at ran
    obtain ⟨_,_,v,_,_,_,made⟩ := ran
    obtain ⟨_,rfl⟩ := Prod.mk.inj made
    exact owned.refer _ _ rfl
  | store r i value =>
    simp only [World.step,Option.bind_eq_some_iff,Option.map_eq_some_iff] at ran
    obtain ⟨_,_,_,_,_,stored,made⟩ := ran
    obtain ⟨_,rfl⟩ := Prod.mk.inj made
    exact owned.storeMember stored
  | dispose r =>
    obtain ⟨h,handle,ran⟩ := Option.bind_eq_some_iff.mp ran
    rcases h with ⟨T,view⟩
    cases view with
    | none =>
      obtain ⟨_,rfl⟩ := Prod.mk.inj (Option.some.inj ran)
      exact owned
    | some v =>
      obtain ⟨_,rfl⟩ := Prod.mk.inj (Option.some.inj ran)
      exact owned.close handle rfl

end World

theorem zeroValue_holds (T : CType) : Holds T (List.replicate T.size 0) (zeroValue T) where
  sized := List.length_replicate
  cells := by
    intro path o k n found
    have inside := (place_inside found).1
    rw [CType.size] at inside
    simp only [zeroValue,found,slice,List.drop_replicate,List.take_replicate]
    congr 1
    omega

namespace Represents

variable {addr : Nat → Addr} {s : Process} {b : World} {T : CType} {v : View} {p : Pointer}

theorem start : Represents addr Process.start World.start where
  lengths := rfl
  handles := by simp [World.start]
  stored := by simp [World.start]
  separate := by
    rintro _ _ ⟨_,_,found,_⟩
    simp [World.start] at found
  tight := by simp [Process.start,Mem.empty]

/-- What the C# variable `r` refers to is what its proxy points to. -/
theorem handle (rep : Represents addr s b) {r : Ref} {h : Handle} (found : b.handles[r]? = some h) :
    ∃ x, s.proxies[r]? = some x ∧ Matches addr b.objects h x := by
  obtain ⟨bound,_⟩ := List.getElem?_eq_some_iff.mp found
  rw [← rep.lengths] at bound
  exact ⟨s.proxies[r],by simp [bound],rep.handles r h _ found (by simp [bound])⟩

theorem refersTo (rep : Represents addr s b) {r : Ref} (found : b.handles[r]? = some ⟨T,some v⟩) :
    ∃ p, s.proxies[r]? = some ⟨T,p,v.owner⟩ ∧ Points addr b.objects T v p := by
  obtain ⟨x,proxy,matched⟩ := rep.handle found
  cases matched with
  | refers _ _ p points => exact ⟨p,proxy,points⟩

theorem disposed (rep : Represents addr s b) {r : Ref} (found : b.handles[r]? = some ⟨T,none⟩) :
    s.proxies[r]? = some ⟨T,.null,false⟩ := by
  obtain ⟨x,proxy,matched⟩ := rep.handle found
  cases matched with
  | disposed => exact proxy

theorem openView (rep : Represents addr s b) {obj : Option Ref} (found : b.openView obj = some v) :
    ∃ r T p, obj = some r ∧ b.handles[r]? = some ⟨T,some v⟩ ∧ s.proxies[r]? = some ⟨T,p,v.owner⟩ ∧
      s.getCPtr obj = some p ∧ Points addr b.objects T v p := by
  cases obj with
  | none => contradiction
  | some r =>
    obtain ⟨⟨T,view⟩,handle,same⟩ := Option.bind_eq_some_iff.mp found
    obtain rfl : view = some v := same
    obtain ⟨p,proxy,points⟩ := rep.refersTo handle
    exact ⟨r,T,p,rfl,handle,proxy,by simp [Process.getCPtr,proxy],points⟩

theorem knows (rep : Represents addr s b) {obj : Option Ref} (known : b.knows obj = true) :
    ∃ p, s.getCPtr obj = some p := by
  cases obj with
  | none => exact ⟨.null,rfl⟩
  | some r =>
    have bound : r < s.proxies.length := by
      rw [rep.lengths]
      simpa [World.knows] using known
    exact ⟨s.proxies[r].swigCPtr,by simp [Process.getCPtr,bound]⟩

/-- A new object at a fresh address, and a proxy for it. -/
theorem create (rep : Represents addr s b) (f : Fresh s.heap) {bytes : List UInt8} {value : Value}
    (own : Bool) (holds : Holds T bytes value) :
    Represents (Function.update addr b.objects.length f.addr)
      ⟨s.proxies ++ [⟨T,⟨f.addr,0⟩,own⟩],s.heap.set f.addr f.nonnull (some bytes)⟩
      (b.create T own value).2 := by
  have old_addr : ∀ (id : Nat) object, b.objects[id]? = some object →
      Function.update addr b.objects.length f.addr id = addr id := by
    intro id object found
    obtain ⟨bound,_⟩ := List.getElem?_eq_some_iff.mp found
    exact Function.update_of_ne (by omega) _ _
  have kept : ∀ (id : Nat) object, b.objects[id]? = some object →
      Function.update addr b.objects.length f.addr id = addr id ∧
        ∃ object', (b.create T own value).2.objects[id]? = some object' ∧ object'.type = object.type :=
    fun id object found => ⟨old_addr id object found,object,found_concat found,rfl⟩
  have old_apart : ∀ (id : Nat) object whole, b.objects[id]? = some object →
      object.value = some whole → addr id ≠ f.addr := by
    intro id object whole found alive clash
    obtain ⟨_,block,_⟩ := rep.stored id object whole found alive
    rw [clash,f.dead] at block
    contradiction
  have live_cases : ∀ id, (b.create T own value).2.Live id → b.Live id ∨ id = b.objects.length := by
    rintro id ⟨object,whole,found,alive⟩
    rcases concat_cases found with old | ⟨here,_⟩
    · exact .inl ⟨object,whole,old,alive⟩
    · exact .inr here
  refine ⟨by simp [World.create,rep.lengths],?_,?_,?_,?_⟩
  · intro r h x handle proxy
    rcases concat_cases handle with old | ⟨here,rfl⟩
    · rcases concat_cases proxy with old' | ⟨here,_⟩
      · exact (rep.handles r h x old old').mono kept
      · obtain ⟨bound,_⟩ := List.getElem?_eq_some_iff.mp old
        rw [here,rep.lengths] at bound
        omega
    · rcases concat_cases proxy with old | ⟨_,rfl⟩
      · obtain ⟨bound,_⟩ := List.getElem?_eq_some_iff.mp old
        rw [here,← rep.lengths] at bound
        omega
      · refine .refers T ⟨b.objects.length,[],own⟩ ⟨f.addr,0⟩ ⟨⟨T,some value,own⟩,0,?_,rfl,?_,?_⟩
        · simp [World.create]
        · simp [f.nonnull]
        · simp
  · intro id object whole found alive
    rcases concat_cases found with old | ⟨here,rfl⟩
    · obtain ⟨bytes',block,holds'⟩ := rep.stored id object whole old alive
      refine ⟨bytes',?_,holds'⟩
      rw [old_addr id object old]
      exact (Mem.block_set_other _ _ f.nonnull _ (old_apart id object whole old alive)).trans block
    · obtain rfl := Option.some.inj alive
      exact ⟨bytes,by simp [here],holds⟩
  · intro i j liveI liveJ same
    rcases live_cases i liveI with oldI | rfl <;> rcases live_cases j liveJ with oldJ | rfl
    · obtain ⟨objectI,wholeI,foundI,_⟩ := id oldI
      obtain ⟨objectJ,wholeJ,foundJ,_⟩ := id oldJ
      rw [old_addr i _ foundI,old_addr j _ foundJ] at same
      exact rep.separate i j oldI oldJ same
    · obtain ⟨object,whole,found,alive⟩ := oldI
      rw [old_addr i _ found,Function.update_self] at same
      exact absurd same (old_apart i object whole found alive)
    · obtain ⟨object,whole,found,alive⟩ := oldJ
      rw [old_addr j _ found,Function.update_self] at same
      exact absurd same.symm (old_apart j object whole found alive)
    · rfl
  · intro a alloc
    by_cases here : a = f.addr
    · subst here
      refine ⟨b.objects.length,⟨⟨T,some value,own⟩,value,by simp [World.create],rfl⟩,by simp⟩
    · rw [Mem.block_set_other _ _ _ _ here] at alloc
      obtain ⟨id,⟨object,whole,found,alive⟩,rfl⟩ := rep.tight a alloc
      exact ⟨id,⟨object,whole,found_concat found,alive⟩,old_addr id object found⟩

/-- A new proxy for something that is there. -/
theorem refer (rep : Represents addr s b) {h : Handle} {x : Proxy} (matched : Matches addr b.objects h x) :
    Represents addr { s with proxies := s.proxies ++ [x] } { b with handles := b.handles ++ [h] } := by
  refine ⟨by simp [rep.lengths],?_,rep.stored,rep.separate,rep.tight⟩
  intro r h' x' handle proxy
  rcases concat_cases handle with old | ⟨here,rfl⟩ <;> rcases concat_cases proxy with old' | ⟨here',rfl⟩
  · exact rep.handles r h' x' old old'
  · obtain ⟨bound,_⟩ := List.getElem?_eq_some_iff.mp old
    rw [here',rep.lengths] at bound
    omega
  · obtain ⟨bound,_⟩ := List.getElem?_eq_some_iff.mp old'
    rw [here,← rep.lengths] at bound
    omega
  · exact matched

theorem close (rep : Represents addr s b) (r : Ref) (T : CType) :
    Represents addr { s with proxies := s.proxies.set r ⟨T,.null,false⟩ }
      { b with handles := b.handles.set r ⟨T,none⟩ } := by
  refine ⟨by simp [rep.lengths],?_,rep.stored,rep.separate,rep.tight⟩
  intro r' h x handle proxy
  by_cases same : r = r'
  · subst same
    have bound := (List.getElem?_eq_some_iff.mp handle).1
    have bound' := (List.getElem?_eq_some_iff.mp proxy).1
    simp only [List.length_set] at bound bound'
    rw [List.getElem?_set_self bound] at handle
    rw [List.getElem?_set_self bound'] at proxy
    obtain rfl := Option.some.inj handle
    obtain rfl := Option.some.inj proxy
    exact .disposed T
  · rw [List.getElem?_set_ne same] at handle proxy
    exact rep.handles r' h x handle proxy

/-- One turn of an array setter's loop. -/
theorem copyElement (rep : Represents addr s b) {elem : CType} {n ii : Nat} {w : View} {q : Pointer}
    {b' : World} (points : Points addr b.objects (.array elem n) v p) (bound : ii < n)
    (source : Points addr b.objects elem w q) (ran : World.copyElement v w b ii = some b') :
    ∃ m, Proxies.copyElement elem p q s.heap ii = some m ∧ Represents addr { s with heap := m } b' := by
  simp only [World.copyElement,Option.bind_eq_some_iff,Option.map_eq_some_iff] at ran
  obtain ⟨path,⟨object,found,next⟩,part,resolved,old,target,rfl⟩ := ran
  obtain ⟨object',o,found',named,nonnull,rfl⟩ := source
  obtain rfl := Option.some.inj (found.symm.trans found')
  obtain ⟨k,last,inArray⟩ := Option.bind_eq_some_iff.mp next
  split at inArray
  · rename_i a elem' count outer
    obtain ⟨inside,same⟩ := Option.ite_none_right_eq_some.mp inArray
    obtain rfl := Option.some.inj same
    have whole : w.path.dropLast ++ [k] = w.path := List.dropLast_append_getLast? k last
    have here := place_element outer (show k < count by omega)
    rw [whole,named] at here
    obtain ⟨rfl,rfl⟩ := Prod.mk.inj (Option.some.inj here)
    have there := place_element outer inside
    have target' : Points addr b.objects elem (v.member ii) (p.plus (ii * elem.size)) :=
      points.member (by rw [CType.member,if_pos bound])
    have source' : Points addr b.objects elem { w with path := w.path.dropLast ++ [k + ii] }
        (Pointer.plus ⟨addr w.object,a + k * elem.size⟩ (ii * elem.size)) :=
      ⟨object,_,found,there,nonnull,by simp [Pointer.plus,Nat.add_mul,Nat.add_assoc]⟩
    obtain ⟨bytes,loaded,holds⟩ := rep.load source' resolved
    obtain ⟨m,stored,next⟩ := rep.store target' (World.resolve_member target ii) holds
    exact ⟨m,by simp [Proxies.copyElement,loaded,stored],next⟩
  · contradiction

theorem setValue_kept (b : World) (id : Nat) (change : Option Value → Option Value) :
    ∀ (id' : Nat) object, b.objects[id']? = some object → addr id' = addr id' ∧
      ∃ object', (b.setValue id change).objects[id']? = some object' ∧ object'.type = object.type := by
  intro id' object found
  refine ⟨rfl,?_⟩
  rw [World.setValue_objects,found]
  by_cases same : id = id' <;> simp [same]

theorem copyElements (rep : Represents addr s b) {elem : CType} {n : Nat} {w : View} {q : Pointer}
    {b' : World} (points : Points addr b.objects (.array elem n) v p)
    (source : Points addr b.objects elem w q) {l : List Nat} (bound : ∀ ii ∈ l, ii < n)
    (ran : l.foldlM (World.copyElement v w) b = some b') :
    ∃ m, l.foldlM (Proxies.copyElement elem p q) s.heap = some m ∧
      Represents addr { s with heap := m } b' := by
  induction l generalizing s b with
  | nil =>
    obtain rfl := Option.some.inj ran
    exact ⟨s.heap,rfl,rep⟩
  | cons ii l ih =>
    rw [List.foldlM_cons] at ran
    obtain ⟨mid,first,rest⟩ := Option.bind_eq_some_iff.mp ran
    obtain ⟨m,copied,next⟩ := rep.copyElement points (bound ii List.mem_cons_self) source first
    simp only [World.copyElement,Option.bind_eq_some_iff,Option.map_eq_some_iff] at first
    obtain ⟨_,_,_,_,_,_,rfl⟩ := first
    obtain ⟨m',others,last⟩ := ih next (points.mono (setValue_kept b _ _))
      (source.mono (setValue_kept b _ _)) (fun jj member => bound jj (List.mem_cons_of_mem ii member)) rest
    exact ⟨m',by rw [List.foldlM_cons,copied]; exact others,last⟩

theorem storeWhole (rep : Represents addr s b) {U : CType} {i o : Nat} {value : Option Ref}
    {b' : World} (points : Points addr b.objects T v p) (field : T.member i = some (o,U))
    (typed : ∀ r' ∈ value, ∀ y ∈ s.proxies[r']?, y.type = U)
    (ran : b.storeWhole i value (some v) = some b') :
    ∃ arg2 m, s.getCPtr value = some arg2 ∧ Proxies.storeWhole s.heap p o arg2 U = some m ∧
      Represents addr { s with heap := m } b' := by
  simp only [World.storeWhole,Option.bind_eq_some_iff,Option.map_eq_some_iff] at ran
  obtain ⟨w,opened,part,resolved,old,target,rfl⟩ := ran
  obtain ⟨r,_,q,rfl,_,proxy,pointer,source⟩ := rep.openView opened
  obtain rfl : _ = U := typed r rfl _ proxy
  obtain ⟨bytes,loaded,holds⟩ := rep.load source resolved
  obtain ⟨m,stored,next⟩ := rep.store (points.member field) (World.resolve_member target i) holds
  exact ⟨q,m,pointer,by simp [Proxies.storeWhole,points.nonnull,loaded,stored],next⟩

theorem storeMember (rep : Represents addr s b) {U : CType} {i o : Nat} {value : Option Ref}
    {b' : World} (points : Points addr b.objects T v p) (field : T.member i = some (o,U))
    (typed : ∀ r' ∈ value, ∀ y ∈ s.proxies[r']?, y.type = pointee U)
    (ran : b.storeMember (some v) i value U = some b') :
    ∃ arg2 m, s.getCPtr value = some arg2 ∧ Proxies.storeMember s.heap p o arg2 U = some m ∧
      Represents addr { s with heap := m } b' := by
  cases U with
  | cell => exact rep.storeWhole points field typed ran
  | struct => exact rep.storeWhole points field typed ran
  | array elem count =>
    simp only [World.storeMember,Option.bind_some,Option.bind_eq_some_iff] at ran
    obtain ⟨w,opened,copied⟩ := ran
    obtain ⟨r,_,q,rfl,_,proxy,pointer,source⟩ := rep.openView opened
    obtain rfl : _ = elem := typed r rfl _ proxy
    obtain ⟨m,same,next⟩ := rep.copyElements (points.member field) source
      (fun ii member => List.mem_range.mp member) copied
    exact ⟨q,m,pointer,same,next⟩

theorem allocate (rep : Represents addr s b) {new : Allocator UInt8}
    (granted : (new.grant s.heap T.size).isSome) (own : Bool) {bytes : List UInt8} {value : Value}
    (holds : Holds T bytes value) :
    ∃ s' addr', s.allocate new T own bytes = some (.made b.handles.length,s') ∧
      Represents addr' s' (b.create T own value).2 := by
  obtain ⟨f,grant⟩ := Option.isSome_iff_exists.mp granted
  refine ⟨_,_,?_,rep.create f own holds⟩
  simp [Process.allocate,grant,Process.make,rep.lengths]

/-- A property of structure, union or array type answers with a pointer to what it names. -/
theorem view (rep : Represents addr s b) {r : Ref} {U : CType} {i o : Nat}
    (found : b.handles[r]? = some ⟨T,some v⟩) (field : T.member i = some (o,U)) (room : 0 < U.size) :
    ∃ p, s.proxies[r]? = some ⟨T,p,v.owner⟩ ∧ p.plus o ≠ .null ∧
      Matches addr b.objects ⟨pointee U,some ⟨v.object,v.path ++ pointeePath i U,false⟩⟩
        ⟨pointee U,p.plus o,false⟩ := by
  obtain ⟨p,proxy,points⟩ := rep.refersTo found
  refine ⟨p,proxy,(points.member field).nonnull,?_⟩
  have inner : T.place (pointeePath i U) = some (o,pointee U) := by
    cases U with
    | cell => exact place_single field
    | struct => exact place_single field
    | array elem count =>
      have some_element : 0 < count := by
        rw [CType.size] at room
        exact Nat.pos_of_mul_pos_right room
      simpa [pointeePath,pointee] using place_element (place_single field) some_element
  exact .refers _ ⟨v.object,v.path ++ pointeePath i U,false⟩ _ (points.below inner false)

/-- Disposing is always possible: the object that an open owner releases is still there. -/
theorem dispose (rep : Represents addr s b) (owned : b.Owned) {r : Ref}
    (found : b.handles[r]? = some ⟨T,some v⟩) :
    ∃ s', s.dispose r = some s' ∧ Represents addr s' (if v.owner then
        World.release { b with handles := b.handles.set r ⟨T,none⟩ } v.object
      else { b with handles := b.handles.set r ⟨T,none⟩ }) := by
  obtain ⟨p,proxy,points⟩ := rep.refersTo found
  cases owner : v.owner with
  | true =>
    obtain ⟨root,object,value,there,alive,_⟩ := owned.root r v ⟨_,found,rfl,owner⟩
    obtain ⟨m,deleted,next⟩ := rep.delete points (World.resolve_of there alive) root
    refine ⟨_,?_,next.close r T⟩
    simp [Process.dispose,proxy,points.nonnull,owner,deleted]
  | false =>
    refine ⟨_,?_,rep.close r T⟩
    simp [Process.dispose,proxy,points.nonnull,owner]

end Represents

/-- A property of a disposed object takes no value, and ignores the one it is given. -/
theorem storeMember_disposed {b b' : World} {i : Nat} {value : Option Ref} {U : CType}
    (ran : b.storeMember none i value U = some b') :
    b.knows value = true ∧ b' = b ∧ ∀ m o arg2, storeMember m .null o arg2 U = some m := by
  cases U with
  | array => contradiction
  | cell =>
    obtain ⟨known,same⟩ := Option.ite_none_right_eq_some.mp ran
    exact ⟨known,(Option.some.inj same).symm,fun _ _ _ => rfl⟩
  | struct =>
    obtain ⟨known,same⟩ := Option.ite_none_right_eq_some.mp ran
    exact ⟨known,(Option.some.inj same).symm,fun _ _ _ => rfl⟩

/-- The process is what a world of objects looks like from below. -/
def Tracks (s : Process) (b : World) : Prop := b.Owned ∧ ∃ addr, Represents addr s b

theorem start_tracks : Tracks Process.start World.start := by
  refine ⟨⟨?_,?_,?_⟩,fun _ => 0,Represents.start⟩
  · rintro r v ⟨h,found,_⟩
    simp [World.start] at found
  · rintro r _ v _ ⟨h,found,_⟩
    simp [World.start] at found
  · intro id object value found
    simp [World.start] at found

theorem step_represents (new : Allocator UInt8) {s : Process} {b b' : World} {a : Action} {o : Answer}
    {addr : Nat → Addr} (owned : b.Owned) (rep : Represents addr s b) (allowed : s.allows new a)
    (ran : b.step a = some (o,b')) :
    ∃ s' addr', Process.step new s a = some (o,s') ∧ Represents addr' s' b' := by
  cases a with
  | construct T =>
    obtain ⟨rfl,rfl⟩ := Prod.mk.inj (Option.some.inj ran)
    exact rep.allocate allowed true (zeroValue_holds T)
  | newP T =>
    obtain ⟨rfl,rfl⟩ := Prod.mk.inj (Option.some.inj ran)
    exact rep.allocate allowed false (zeroValue_holds T)
  | copyP value =>
    cases value with
    | none =>
      obtain ⟨rfl,rfl⟩ := Prod.mk.inj (Option.some.inj ran)
      exact ⟨s,addr,rfl,rep⟩
    | some r =>
      obtain ⟨⟨T,view⟩,handle,ran⟩ := Option.bind_eq_some_iff.mp ran
      cases view with
      | none =>
        obtain ⟨rfl,rfl⟩ := Prod.mk.inj (Option.some.inj ran)
        exact ⟨s,addr,by simp [Process.step,rep.disposed handle],rep⟩
      | some w =>
        obtain ⟨value,resolved,made⟩ := Option.map_eq_some_iff.mp ran
        obtain ⟨rfl,rfl⟩ := Prod.mk.inj made
        obtain ⟨p,proxy,points⟩ := rep.refersTo handle
        obtain ⟨bytes,loaded,holds⟩ := rep.load points resolved
        obtain ⟨s',addr',made,next⟩ := rep.allocate (allowed r rfl _ proxy) false holds
        exact ⟨s',addr',by simp [Process.step,proxy,points.nonnull,loaded,made],next⟩
  | assignP obj value =>
    cases value with
    | none =>
      obtain ⟨rfl,rfl⟩ := Prod.mk.inj (Option.some.inj ran)
      exact ⟨s,addr,rfl,rep⟩
    | some r =>
      obtain ⟨⟨T,view⟩,handle,ran⟩ := Option.bind_eq_some_iff.mp ran
      cases view with
      | none =>
        obtain ⟨rfl,rfl⟩ := Prod.mk.inj (Option.some.inj ran)
        exact ⟨s,addr,by simp [Process.step,rep.disposed handle],rep⟩
      | some w =>
        simp only [Option.bind_eq_some_iff,Option.map_eq_some_iff] at ran
        obtain ⟨part,resolved,v,opened,old,target,made⟩ := ran
        obtain ⟨rfl,rfl⟩ := Prod.mk.inj made
        obtain ⟨q,proxy,source⟩ := rep.refersTo handle
        obtain ⟨r',T',p,rfl,_,proxy',pointer,points⟩ := rep.openView opened
        obtain rfl : T' = T := allowed r' rfl _ proxy' r rfl _ proxy
        obtain ⟨bytes,loaded,holds⟩ := rep.load source resolved
        obtain ⟨m,stored,next⟩ := rep.store points target holds
        exact ⟨_,addr,by simp [Process.step,proxy,source.nonnull,pointer,loaded,stored],next⟩
  | valueP obj =>
    cases obj with
    | none => contradiction
    | some r =>
      simp only [World.step,Option.bind_eq_some_iff,Option.map_eq_some_iff] at ran
      obtain ⟨⟨T,view⟩,handle,v,rfl,value,resolved,made⟩ := ran
      obtain ⟨rfl,rfl⟩ := Prod.mk.inj made
      obtain ⟨p,proxy,points⟩ := rep.refersTo handle
      obtain ⟨bytes,loaded,holds⟩ := rep.load points resolved
      obtain ⟨s',addr',made,next⟩ := rep.allocate (allowed r rfl _ proxy) true holds
      exact ⟨s',addr',by simp [Process.step,proxy,loaded,made],next⟩
  | deleteP obj =>
    cases obj with
    | none =>
      obtain ⟨rfl,rfl⟩ := Prod.mk.inj (Option.some.inj ran)
      exact ⟨s,addr,by simp [Process.step,Process.getCPtr,delete],rep⟩
    | some r =>
      obtain ⟨⟨T,view⟩,handle,ran⟩ := Option.bind_eq_some_iff.mp ran
      cases view with
      | none =>
        obtain ⟨rfl,rfl⟩ := Prod.mk.inj (Option.some.inj ran)
        exact ⟨s,addr,by simp [Process.step,Process.getCPtr,rep.disposed handle,delete],rep⟩
      | some v =>
        simp only [Option.bind_eq_some_iff,Option.ite_none_right_eq_some,Option.some.injEq,
          Prod.mk.injEq] at ran
        obtain ⟨object,found,⟨root,alive,_⟩,rfl,rfl⟩ := ran
        obtain ⟨value,alive⟩ := Option.isSome_iff_exists.mp alive
        obtain ⟨p,proxy,points⟩ := rep.refersTo handle
        obtain ⟨m,deleted,next⟩ := rep.delete points (World.resolve_of found alive) root
        exact ⟨_,addr,by simp [Process.step,Process.getCPtr,proxy,deleted],next⟩
  | wcharPValue obj =>
    cases obj with
    | none => contradiction
    | some r =>
      simp only [World.step,Option.bind_eq_some_iff,Option.map_eq_some_iff] at ran
      obtain ⟨⟨T,view⟩,handle,v,rfl,value,resolved,made⟩ := ran
      obtain ⟨rfl,rfl⟩ := Prod.mk.inj made
      obtain ⟨p,proxy,points⟩ := rep.refersTo handle
      obtain ⟨bytes,loaded,holds⟩ := rep.load points resolved
      obtain ⟨s',addr',made,next⟩ := rep.allocate (allowed r rfl _ proxy) false holds
      exact ⟨s',addr',by simp [Process.step,proxy,loaded,made],next⟩
  | assignScalarP obj data =>
    simp only [World.step,Option.bind_eq_some_iff,Option.map_eq_some_iff] at ran
    obtain ⟨v,opened,old,target,made⟩ := ran
    obtain ⟨rfl,rfl⟩ := Prod.mk.inj made
    obtain ⟨r,T,p,rfl,_,proxy,pointer,points⟩ := rep.openView opened
    obtain ⟨k,n,rfl,sized⟩ := allowed r rfl _ proxy
    obtain ⟨m,stored,next⟩ := rep.store points target (Holds.cell sized)
    exact ⟨_,addr,by simp [Process.step,pointer,stored],next⟩
  | scalarPValue obj =>
    simp only [World.step,Option.bind_eq_some_iff,Option.map_eq_some_iff] at ran
    obtain ⟨v,opened,value,resolved,made⟩ := ran
    obtain ⟨rfl,rfl⟩ := Prod.mk.inj made
    obtain ⟨r,T,p,rfl,_,proxy,_,points⟩ := rep.openView opened
    obtain ⟨k,n,rfl⟩ := allowed r rfl _ proxy
    obtain ⟨bytes,loaded,holds⟩ := rep.load points resolved
    have same : bytes = value [] := holds.whole
    exact ⟨s,addr,by simp [Process.step,proxy,loaded,same],rep⟩
  | get r i =>
    simp only [World.step,Option.bind_eq_some_iff,Option.map_eq_some_iff] at ran
    obtain ⟨v,opened,value,resolved,made⟩ := ran
    obtain ⟨rfl,rfl⟩ := Prod.mk.inj made
    obtain ⟨r',T,p,here,_,proxy,_,points⟩ := rep.openView opened
    obtain rfl := Option.some.inj here
    obtain ⟨o,k,n,field⟩ := allowed _ proxy
    obtain ⟨bytes,loaded,holds⟩ := rep.load (points.member field) (World.resolve_member resolved i)
    have same : bytes = value [i] := holds.whole
    exact ⟨s,addr,by simp [Process.step,proxy,field,loaded,same],rep⟩
  | set r i data =>
    obtain ⟨⟨T,view⟩,handle,ran⟩ := Option.bind_eq_some_iff.mp ran
    cases view with
    | none =>
      obtain ⟨rfl,rfl⟩ := Prod.mk.inj (Option.some.inj ran)
      obtain ⟨o,k,n,field,_⟩ := allowed _ (rep.disposed handle)
      exact ⟨s,addr,by simp [Process.step,rep.disposed handle,field],rep⟩
    | some v =>
      obtain ⟨value,resolved,made⟩ := Option.map_eq_some_iff.mp ran
      obtain ⟨rfl,rfl⟩ := Prod.mk.inj made
      obtain ⟨p,proxy,points⟩ := rep.refersTo handle
      obtain ⟨o,k,n,field,sized⟩ := allowed _ proxy
      obtain ⟨m,stored,next⟩ :=
        rep.store (points.member field) (World.resolve_member resolved i) (Holds.cell sized)
      exact ⟨_,addr,by simp [Process.step,proxy,field,points.nonnull,stored],next⟩
  | view r i =>
    simp only [World.step,Option.bind_eq_some_iff,Option.map_eq_some_iff] at ran
    obtain ⟨⟨T,view⟩,handle,v,rfl,⟨o,U⟩,field,made⟩ := ran
    obtain ⟨rfl,rfl⟩ := Prod.mk.inj made
    obtain ⟨_,proxy,_⟩ := rep.refersTo handle
    obtain ⟨o',U',field',room⟩ := allowed _ proxy
    obtain ⟨rfl,rfl⟩ := Prod.mk.inj (Option.some.inj (field.symm.trans field'))
    obtain ⟨p,proxy,nonnull,matched⟩ := rep.view handle field room
    refine ⟨_,addr,?_,rep.refer matched⟩
    simp [Process.step,proxy,field,Process.wrap,nonnull,Process.make,rep.lengths]
  | store r i value =>
    simp only [World.step,Option.bind_eq_some_iff,Option.map_eq_some_iff] at ran
    obtain ⟨⟨T,view⟩,handle,⟨o,U⟩,field,b',stored,made⟩ := ran
    obtain ⟨rfl,rfl⟩ := Prod.mk.inj made
    cases view with
    | none =>
      obtain ⟨known,rfl,same⟩ := storeMember_disposed stored
      obtain ⟨arg2,pointer⟩ := rep.knows known
      exact ⟨s,addr,by simp [Process.step,rep.disposed handle,field,pointer,same],rep⟩
    | some v =>
      obtain ⟨p,proxy,points⟩ := rep.refersTo handle
      obtain ⟨o',U',field',typed⟩ := allowed _ proxy
      obtain ⟨rfl,rfl⟩ := Prod.mk.inj (Option.some.inj (field.symm.trans field'))
      obtain ⟨arg2,m,pointer,same,next⟩ := rep.storeMember points field typed stored
      exact ⟨_,addr,by simp [Process.step,proxy,field,pointer,same],next⟩
  | dispose r =>
    obtain ⟨⟨T,view⟩,handle,ran⟩ := Option.bind_eq_some_iff.mp ran
    cases view with
    | none =>
      obtain ⟨rfl,rfl⟩ := Prod.mk.inj (Option.some.inj ran)
      exact ⟨s,addr,by simp [Process.step,Process.dispose,rep.disposed handle],rep⟩
    | some v =>
      obtain ⟨rfl,rfl⟩ := Prod.mk.inj (Option.some.inj ran)
      obtain ⟨s',disposed,next⟩ := rep.dispose owned handle
      exact ⟨s',addr,by simp [Process.step,disposed],next⟩

end IGCL.Proxies
