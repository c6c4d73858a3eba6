import IGCLWrapper.ApiStructs
import IGCLWrapper.DriverProtocol
import IGCLWrapper.ProxyRefinement

/-! Whole programs over the generated classes: they see objects with values, `Dispose` and the
finalizers may come at any time and in any order, and what they leave in the heap is what was made by
a pointer function and not deleted. -/
namespace IGCL.Proxies

open BlockMemory CLayout FaultMachine

theorem proxies_refine (new : Allocator UInt8) :
    Refines (Process.step new) (Process.allows new) World.step Tracks := by
  rintro s b a o b' ⟨owned,addr,rep⟩ allowed ran
  obtain ⟨s',addr',same,next⟩ := step_represents new owned rep allowed ran
  exact ⟨s',same,owned.step ran,addr',next⟩

/-- A program that sets and reads back `ApplicationUID.Data2` of a `ctl_init_args_t`, disposes it and
goes on to set a property of it. -/
def initArgsActs : List Action :=
  [.construct ctlInitArgs,.view 0 5,.set 1 1 [0x34,0x12],.get 1 1,.dispose 0,.set 0 0 [1,1,1,1]]

theorem initArgs_permitted :
    Permitted (Process.step (mallocAt 16 (by decide) 0xcd))
      (Process.allows (mallocAt 16 (by decide) 0xcd)) Process.start initArgsActs := by
  refine permitted_cons rfl rfl (permitted_cons ?_ rfl (permitted_cons ?_ rfl (permitted_cons ?_ rfl
    (permitted_cons trivial rfl (permitted_cons ?_ rfl trivial)))))
  · rintro x ⟨⟩
    exact ⟨_,_,rfl,by decide⟩
  · rintro x ⟨⟩
    exact ⟨_,_,_,rfl,rfl⟩
  · rintro x ⟨⟩
    exact ⟨_,_,_,rfl⟩
  · rintro x ⟨⟩
    exact ⟨_,_,_,rfl,rfl⟩

namespace World

variable {b : World}

/-- `Dispose` or a finalizer is always answered, and does nothing but close one reference and release
objects. -/
theorem dispose_effect {r : Ref} {h : Handle} (handle : b.handles[r]? = some h) :
    ∃ b', b.step (.dispose r) = some (.done,b') ∧ b'.handles = b.handles.set r ⟨h.type,none⟩ ∧
      ∀ (id : Nat) object, b'.objects[id]? = some object →
        object.value = none ∨ b.objects[id]? = some object := by
  rcases h with ⟨T,view⟩
  cases view with
  | none =>
    refine ⟨b,by simp [step,handle],?_,fun _ _ found => .inr found⟩
    obtain ⟨bound,same⟩ := List.getElem?_eq_some_iff.mp handle
    rw [← same,List.set_getElem_self]
  | some v =>
    refine ⟨_,by rw [step,handle]; rfl,?_,?_⟩
    · split <;> rfl
    · intro id object found
      split at found
      · rw [release,setValue_objects] at found
        obtain ⟨before,there,rfl⟩ := Option.map_eq_some_iff.mp found
        by_cases same : v.object = id
        · simp [same]
        · simp only [same,↓reduceIte]
          exact .inr there
      · exact .inr found

theorem disposals_effect {refs : List Ref} (known : ∀ r ∈ refs, r < b.handles.length) :
    ∃ b', run step b (refs.map .dispose) = some (List.replicate refs.length .done,b') ∧
      (∀ r ∈ refs, ∃ T, b'.handles[r]? = some ⟨T,none⟩) ∧
      (∀ (r : Ref) T, b.handles[r]? = some ⟨T,none⟩ → b'.handles[r]? = some ⟨T,none⟩) ∧
      b'.handles.length = b.handles.length ∧
      ∀ (id : Nat) object, b'.objects[id]? = some object →
        object.value = none ∨ b.objects[id]? = some object := by
  induction refs generalizing b with
  | nil => exact ⟨b,rfl,by simp,fun _ _ same => same,rfl,fun _ _ found => .inr found⟩
  | cons r refs ih =>
    have bound := known r List.mem_cons_self
    obtain ⟨mid,first,handles,objects⟩ := dispose_effect (List.getElem?_eq_getElem bound)
    have length : mid.handles.length = b.handles.length := by simp [handles]
    obtain ⟨b',rest,closed,kept,length',objects'⟩ := ih (b := mid) (by
      intro r' member
      rw [length]
      exact known r' (List.mem_cons_of_mem r member))
    have here : mid.handles[r]? = some ⟨b.handles[r].type,none⟩ := by
      rw [handles,List.getElem?_set_self bound]
    refine ⟨b',?_,?_,?_,length'.trans length,?_⟩
    · exact run_cons_eq_some.mpr ⟨.done,mid,_,first,rest,rfl⟩
    · intro r' member
      rcases List.mem_cons.mp member with rfl | later
      · exact ⟨_,kept _ _ here⟩
      · exact closed r' later
    · intro r' T before
      refine kept r' T ?_
      by_cases same : r = r'
      · subst same
        obtain ⟨_,was⟩ := List.getElem?_eq_some_iff.mp before
        rw [here,was]
      · rw [handles,List.getElem?_set_ne same]
        exact before
    · intro id object found
      rcases objects' id object found with gone | there
      · exact .inl gone
      · exact objects id object there

end World

theorem disposals_permitted (new : Allocator UInt8) (s : Process) (refs : List Ref) :
    Permitted (Process.step new) (Process.allows new) s (refs.map .dispose) := by
  induction refs generalizing s with
  | nil => trivial
  | cons r refs ih => exact ⟨trivial,fun _ s' _ => ih s'⟩

end IGCL.Proxies
