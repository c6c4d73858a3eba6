import Mathlib.Data.List.Infix

/-! Directory trees: what removing, writing and moving do at every path, and where they
do nothing. Names and file contents are arbitrary. -/
namespace FileTree

inductive Node (κ : Type) where
  | dir
  | file (content : κ)
  deriving DecidableEq, Repr

variable {ν κ : Type}

def Node.content? : Node κ → Option κ
  | .dir => none
  | .file content => some content

/-- What is at each path, a path being the names from the root down. The root is a directory
and so is everything that has something below it. -/
structure Tree (ν κ : Type) where
  node : List ν → Option (Node κ)
  root : node [] = some .dir
  closed : ∀ {p name}, node (p ++ [name]) ≠ none → node p = some .dir

namespace Tree

def empty : Tree ν κ where
  node
    | [] => some .dir
    | _ :: _ => none
  root := rfl
  closed := by
    intro p name below
    cases p <;> exact absurd rfl below

def has (T : Tree ν κ) (p : List ν) : Bool := (T.node p).isSome

def file? (T : Tree ν κ) (p : List ν) : Option κ := (T.node p).bind Node.content?

def isDir (T : Tree ν κ) (p : List ν) : Bool := T.has p && (T.file? p).isNone

theorem has_iff (T : Tree ν κ) (p : List ν) : T.has p = true ↔ T.node p ≠ none :=
  Option.isSome_iff_ne_none

theorem isDir_iff (T : Tree ν κ) (p : List ν) :
    T.isDir p = true ↔ T.has p = true ∧ T.file? p = none := by
  rw [isDir,Bool.and_eq_true,Option.isNone_iff_eq_none]

theorem isDir_root (T : Tree ν κ) : T.isDir [] = true := by
  rw [isDir,has,file?,T.root]
  rfl

theorem file?_of_not_has {T : Tree ν κ} {p : List ν} (free : T.has p = false) : T.file? p = none := by
  rw [has,Option.isSome_eq_false_iff,Option.isNone_iff_eq_none] at free
  rw [file?,free]
  rfl

theorem has_of_node {T T' : Tree ν κ} {p q : List ν} (same : T'.node q = T.node p) :
    T'.has q = T.has p := by rw [has,same,has]

theorem file?_of_node {T T' : Tree ν κ} {p q : List ν} (same : T'.node q = T.node p) :
    T'.file? q = T.file? p := by rw [file?,same,file?]

theorem dir_above {T : Tree ν κ} {p r : List ν} (below : T.node (p ++ r) ≠ none) (proper : r ≠ []) :
    T.node p = some .dir := by
  induction r using List.reverseRecOn with
  | nil => exact absurd rfl proper
  | append_singleton r name ih =>
    rw [← List.append_assoc] at below
    have parent := T.closed below
    by_cases last : r = []
    · subst last
      rwa [List.append_nil] at parent
    · exact ih (by rw [parent]; exact Option.some_ne_none _) last

theorem has_above {T : Tree ν κ} {p q : List ν} (below : T.has q = true) (prior : p <+: q) :
    T.has p = true := by
  obtain ⟨r,rfl⟩ := prior
  cases r with
  | nil => rwa [List.append_nil] at below
  | cons name r =>
    rw [has_iff] at below ⊢
    rw [dir_above below (List.cons_ne_nil _ _)]
    exact Option.some_ne_none _

theorem node_below_free {T : Tree ν κ} {p q : List ν} (free : T.has p = false) (below : p <+: q) :
    T.node q = none := by
  by_contra there
  have above := has_above ((has_iff T q).mpr there) below
  rw [free] at above
  contradiction

@[ext] theorem ext {T T' : Tree ν κ} (same : ∀ q, T.node q = T'.node q) : T = T' := by
  cases T; cases T'
  simp only [mk.injEq]
  exact funext same

/-- The two trees agree at every path that is not one of `ps` or below one. -/
def SameOutside (ps : List (List ν)) (T T' : Tree ν κ) : Prop :=
  ∀ q, (∀ p ∈ ps, ¬p <+: q) → T'.node q = T.node q

theorem SameOutside.refl (ps : List (List ν)) (T : Tree ν κ) : SameOutside ps T T := fun _ _ => rfl

theorem SameOutside.trans {ps : List (List ν)} {T T' T'' : Tree ν κ} (first : SameOutside ps T T')
    (second : SameOutside ps T' T'') : SameOutside ps T T'' :=
  fun q outside => (second q outside).trans (first q outside)

theorem SameOutside.mono {ps ps' : List (List ν)} {T T' : Tree ν κ} (same : SameOutside ps T T')
    (more : ps ⊆ ps') : SameOutside ps' T T' :=
  fun q outside => same q fun p member => outside p (more member)

/-- A node can be written where the same kind of node or nothing is, with no file on the way. -/
def Room (T : Tree ν κ) (p : List ν) (n : Node κ) : Prop :=
  (∀ q ∈ p.inits, q ≠ p → (T.file? q).isNone = true) ∧
    (T.has p = true → (T.file? p).isNone = n.content?.isNone)

theorem Room.above {T : Tree ν κ} {p q : List ν} {n : Node κ} (room : T.Room p n) (prior : q <+: p)
    (ne : q ≠ p) : T.file? q = none :=
  Option.isNone_iff_eq_none.mp (room.1 q ((List.mem_inits q p).mpr prior) ne)

theorem room_congr {T T' : Tree ν κ} {p : List ν} (n : Node κ)
    (same : ∀ q, q <+: p → T'.node q = T.node q) : T'.Room p n ↔ T.Room p n := by
  have files : ∀ q, q <+: p → T'.file? q = T.file? q := fun q prior => file?_of_node (same q prior)
  unfold Room
  rw [has_of_node (same p (List.prefix_refl p)),files p (List.prefix_refl p)]
  refine and_congr_left fun _ => forall₂_congr fun q member => ?_
  rw [files q ((List.mem_inits q p).mp member)]

variable [DecidableEq ν]

/-- Removes what is at `p` and below it. The root stays. -/
def remove (T : Tree ν κ) (p : List ν) : Tree ν κ where
  node q := if p ≠ [] ∧ p <+: q then none else T.node q
  root := by
    rw [if_neg]
    · exact T.root
    · intro given
      obtain ⟨proper,inside⟩ := given
      exact proper (List.prefix_nil.mp inside)
  closed := by
    intro q name below
    split at below
    · exact absurd rfl below
    · next outside =>
      rw [if_neg]
      · exact T.closed below
      · intro given
        obtain ⟨proper,inside⟩ := given
        exact outside ⟨proper,inside.trans (List.prefix_append q [name])⟩

theorem remove_outside (T : Tree ν κ) (p : List ν) : SameOutside [p] T (T.remove p) := by
  intro q outside
  exact if_neg fun both => outside p List.mem_cons_self both.2

theorem remove_inside (T : Tree ν κ) {p q : List ν} (proper : p ≠ []) (inside : p <+: q) :
    (T.remove p).node q = none := if_pos ⟨proper,inside⟩

theorem remove_free (T : Tree ν κ) {p : List ν} (free : T.has p = false) : T.remove p = T := by
  ext q : 1
  by_cases inside : p ≠ [] ∧ p <+: q
  · rw [remove_inside T inside.1 inside.2,node_below_free free inside.2]
  · exact if_neg inside

/-- Removals below `p` that did not get to the end. -/
def removeBelow (T : Tree ν κ) (p : List ν) (gone : List (List ν)) : Tree ν κ :=
  gone.foldl (fun T r => T.remove (p ++ r)) T

theorem removeBelow_outside (T : Tree ν κ) (p : List ν) (gone : List (List ν)) :
    SameOutside [p] T (T.removeBelow p gone) := by
  induction gone generalizing T with
  | nil => exact SameOutside.refl _ T
  | cons r gone ih =>
    apply SameOutside.trans _ (ih (T.remove (p ++ r)))
    intro q outside
    apply remove_outside T (p ++ r) q
    intro p' member inside
    obtain rfl := List.mem_singleton.mp member
    exact outside p List.mem_cons_self ((List.prefix_append p r).trans inside)

instance (T : Tree ν κ) (p : List ν) (n : Node κ) : Decidable (T.Room p n) :=
  inferInstanceAs (Decidable (_ ∧ _))

/-- Writes a node and the directories above it. -/
def put (T : Tree ν κ) (p : List ν) (n : Node κ) : Option (Tree ν κ) :=
  if room : T.Room p n then some
    { node := fun q => if q = p then some n else if q <+: p then some .dir else T.node q
      root := by
        split
        next here =>
          subst here
          have kind := room.2 (by rw [has,T.root]; rfl)
          rw [file?,T.root] at kind
          cases n with
          | dir => rfl
          | file content => contradiction
        next => rw [if_pos List.nil_prefix]
      closed := by
        intro q name below
        by_cases inside : q ++ [name] <+: p
        · have prior : q <+: p := (List.prefix_append q [name]).trans inside
          have ne : q ≠ p := by
            rintro rfl
            have h := inside.length_le
            rw [List.length_append,List.length_singleton] at h
            omega
          rw [if_neg ne,if_pos prior]
        · have ne : q ++ [name] ≠ p := by
            rintro rfl
            exact inside (List.prefix_refl _)
          rw [if_neg ne,if_neg inside] at below
          have parent := T.closed below
          split
          next here =>
            subst here
            have kind := room.2 (by rw [has,parent]; rfl)
            rw [file?,parent] at kind
            cases n with
            | dir => rfl
            | file content => contradiction
          next =>
            split
            next => rfl
            next => exact parent }
  else none

theorem put_node {T T' : Tree ν κ} {p : List ν} {n : Node κ} (written : T.put p n = some T') :
    T.Room p n ∧ ∀ q, T'.node q = if q = p then some n else if q <+: p then some .dir else T.node q := by
  unfold put at written
  split at written
  next room =>
    obtain rfl := Option.some.inj written
    exact ⟨room,fun q => rfl⟩
  next => contradiction

theorem put_room (T : Tree ν κ) (p : List ν) (n : Node κ) :
    (∃ T', T.put p n = some T') ↔ T.Room p n := by
  constructor
  · intro given
    obtain ⟨T',written⟩ := given
    exact (put_node written).1
  · intro room
    exact ⟨_,dif_pos room⟩

theorem put_self {T T' : Tree ν κ} {p : List ν} {n : Node κ} (written : T.put p n = some T') :
    T'.node p = some n := by rw [(put_node written).2,if_pos rfl]

theorem put_dir_isDir {T T' : Tree ν κ} {p : List ν} (written : T.put p .dir = some T') :
    T'.isDir p = true := by
  rw [isDir,has,file?,put_self written]
  rfl

theorem put_has {T T' : Tree ν κ} {p q : List ν} {n : Node κ} (written : T.put p n = some T')
    (there : T.has q = true) : T'.has q = true := by
  obtain ⟨_,after⟩ := put_node written
  rw [has,after q]
  split
  next => rfl
  next =>
    split
    next => rfl
    next => exact there

/-- Files after a write: the one written, and all the others as they were. -/
theorem put_file? {T T' : Tree ν κ} {p : List ν} {n : Node κ} (written : T.put p n = some T')
    (q : List ν) : T'.file? q = (if q = p then n.content? else none).or (T.file? q) := by
  obtain ⟨room,after⟩ := put_node written
  by_cases here : q = p
  · subst here
    rw [file?,after q,if_pos rfl,if_pos rfl]
    cases n with
    | file content => rfl
    | dir =>
      change none = T.file? q
      cases there : T.has q with
      | false => exact (file?_of_not_has there).symm
      | true => exact (Option.isNone_iff_eq_none.mp (room.2 there)).symm
  · rw [if_neg here,Option.none_or]
    by_cases prior : q <+: p
    · rw [room.above prior here,file?,after q,if_neg here,if_pos prior]
      rfl
    · apply file?_of_node
      rw [after q,if_neg here,if_neg prior]

theorem put_outside {T T' : Tree ν κ} {name : ν} {r : List ν} {n : Node κ}
    (written : T.put (name :: r) n = some T') : SameOutside [[name]] T T' := by
  obtain ⟨_,after⟩ := put_node written
  intro q outside
  cases q with
  | nil => rw [T'.root,T.root]
  | cons head q =>
    have apart : ¬head :: q <+: name :: r := by
      intro prior
      obtain ⟨rfl,_⟩ := List.cons_prefix_cons.mp prior
      exact outside _ List.mem_cons_self (List.cons_prefix_cons.mpr ⟨rfl,List.nil_prefix⟩)
    have ne : head :: q ≠ name :: r := fun same => apart (same ▸ List.prefix_refl _)
    rw [after,if_neg ne,if_neg apart]

/-- Writes a list of nodes in order. -/
def putAll (T : Tree ν κ) : List (List ν × Node κ) → Option (Tree ν κ)
  | [] => some T
  | (p,n) :: es => (T.put p n).bind (putAll · es)

/-- Writes as many of the nodes as fit, in order, up to the first that does not. -/
def putUntil (T : Tree ν κ) : List (List ν × Node κ) → Tree ν κ
  | [] => T
  | (p,n) :: es => match T.put p n with
    | none => T
    | some T' => putUntil T' es

/-- The file content a list of nodes gives a path: that of the last entry for it. -/
def content (es : List (List ν × Node κ)) (q : List ν) : Option κ :=
  match es with
  | [] => none
  | (p,n) :: es => (content es q).or (if q = p then n.content? else none)

theorem putAll_has {T T' : Tree ν κ} {es : List (List ν × Node κ)} {q : List ν}
    (written : T.putAll es = some T') (there : T.has q = true) : T'.has q = true := by
  induction es generalizing T with
  | nil => obtain rfl := Option.some.inj written; exact there
  | cons e es ih =>
    obtain ⟨mid,first,rest⟩ := Option.bind_eq_some_iff.mp written
    exact ih rest (put_has first there)

theorem putAll_file? {T T' : Tree ν κ} {es : List (List ν × Node κ)} (written : T.putAll es = some T')
    (q : List ν) : T'.file? q = (content es q).or (T.file? q) := by
  induction es generalizing T with
  | nil => obtain rfl := Option.some.inj written; rfl
  | cons e es ih =>
    obtain ⟨mid,first,rest⟩ := Option.bind_eq_some_iff.mp written
    rw [ih rest,put_file? first,content,Option.or_assoc]

theorem putAll_outside {T T' : Tree ν κ} {name : ν} {es : List (List ν × Node κ)}
    (rooted : ∀ e ∈ es, [name] <+: e.1) (written : T.putAll es = some T') : SameOutside [[name]] T T' := by
  induction es generalizing T with
  | nil => obtain rfl := Option.some.inj written; exact SameOutside.refl _ _
  | cons e es ih =>
    obtain ⟨mid,first,rest⟩ := Option.bind_eq_some_iff.mp written
    obtain ⟨r,path⟩ := rooted e List.mem_cons_self
    rw [← path] at first
    exact (put_outside first).trans (ih (fun e member => rooted e (List.mem_cons_of_mem _ member)) rest)

theorem putUntil_outside (T : Tree ν κ) {name : ν} {es : List (List ν × Node κ)}
    (rooted : ∀ e ∈ es, [name] <+: e.1) : SameOutside [[name]] T (T.putUntil es) := by
  induction es generalizing T with
  | nil => exact SameOutside.refl _ _
  | cons e es ih =>
    rw [putUntil]
    split
    next => exact SameOutside.refl _ _
    next mid first =>
      obtain ⟨r,path⟩ := rooted e List.mem_cons_self
      rw [← path] at first
      exact (put_outside first).trans (ih mid fun e member => rooted e (List.mem_cons_of_mem _ member))

/-- A write below `name` only looks at what is below `name`. -/
theorem put_congr {T T' T₁ : Tree ν κ} {name : ν} {r : List ν} {n : Node κ}
    (same : ∀ q, [name] <+: q → T'.node q = T.node q) (written : T.put (name :: r) n = some T₁) :
    ∃ T₁', T'.put (name :: r) n = some T₁' ∧ ∀ q, [name] <+: q → T₁'.node q = T₁.node q := by
  have above : ∀ q, q <+: name :: r → T'.node q = T.node q := by
    intro q prior
    cases q with
    | nil => rw [T'.root,T.root]
    | cons head q =>
      obtain ⟨rfl,_⟩ := List.cons_prefix_cons.mp prior
      exact same _ (List.cons_prefix_cons.mpr ⟨rfl,List.nil_prefix⟩)
  obtain ⟨room,after⟩ := put_node written
  obtain ⟨T₁',written'⟩ := (put_room T' _ n).mpr ((room_congr n above).mpr room)
  refine ⟨T₁',written',?_⟩
  intro q inside
  rw [(put_node written').2,after,same q inside]

theorem putAll_congr {T T' T₁ : Tree ν κ} {name : ν} {es : List (List ν × Node κ)}
    (rooted : ∀ e ∈ es, [name] <+: e.1) (same : ∀ q, [name] <+: q → T'.node q = T.node q)
    (written : T.putAll es = some T₁) : ∃ T₁', T'.putAll es = some T₁' := by
  induction es generalizing T T' with
  | nil => exact ⟨T',rfl⟩
  | cons e es ih =>
    obtain ⟨mid,first,rest⟩ := Option.bind_eq_some_iff.mp written
    obtain ⟨r,path⟩ := rooted e List.mem_cons_self
    rw [← path] at first
    obtain ⟨mid',first',same'⟩ := put_congr same first
    obtain ⟨T₁',rest'⟩ := ih (fun e member => rooted e (List.mem_cons_of_mem _ member)) same' rest
    refine ⟨T₁',?_⟩
    rw [putAll,← path]
    exact Option.bind_eq_some_iff.mpr ⟨mid',first',rest'⟩

/-- What is at `src` can go to `dst`: there is something at the one and nothing at the other,
which is not inside the first and lies in a directory. -/
def Movable (T : Tree ν κ) (src dst : List ν) : Prop :=
  T.has src = true ∧ T.has dst = false ∧ T.isDir dst.dropLast = true ∧ ¬src <+: dst

instance (T : Tree ν κ) (src dst : List ν) : Decidable (T.Movable src dst) :=
  inferInstanceAs (Decidable (_ ∧ _ ∧ _ ∧ _))

/-- Moves what is at `src` and below it to the free path `dst`. -/
def move (T : Tree ν κ) (src dst : List ν) : Option (Tree ν κ) :=
  if movable : T.Movable src dst then some
    { node := fun q =>
        if dst <+: q then T.node (src ++ q.drop dst.length)
        else if src <+: q then none
        else T.node q
      root := by
        have hsrc : src ≠ [] := fun same => movable.2.2.2 (same ▸ List.nil_prefix)
        have hdst : dst ≠ [] := by
          intro same
          have free := movable.2.1
          rw [same,has,T.root] at free
          contradiction
        rw [if_neg (fun h => hdst (List.prefix_nil.mp h)),if_neg (fun h => hsrc (List.prefix_nil.mp h))]
        exact T.root
      closed := by
        intro q name below
        by_cases inside : dst <+: q
        · rw [if_pos (inside.trans (List.prefix_append _ _))] at below
          rw [if_pos inside]
          have bound := inside.length_le
          rw [List.drop_append_of_le_length bound,← List.append_assoc] at below
          exact T.closed below
        · rw [if_neg inside]
          by_cases here : dst <+: q ++ [name]
          · have top : dst = q ++ [name] := by
              rcases List.prefix_concat_iff.mp here with same | prior
              · exact same
              · exact absurd prior inside
            have parent : T.isDir q = true := by
              have h := movable.2.2.1
              rwa [top,List.dropLast_concat] at h
            have apart : ¬src <+: q := fun prior =>
              movable.2.2.2 (top ▸ prior.trans (List.prefix_append q [name]))
            rw [if_neg apart]
            obtain ⟨there,noFile⟩ := (isDir_iff T q).mp parent
            cases found : T.node q with
            | none => exact absurd found ((has_iff T q).mp there)
            | some n =>
              rw [file?,found] at noFile
              cases n with
              | dir => rfl
              | file content => contradiction
          · rw [if_neg here] at below
            split at below
            next => exact absurd rfl below
            next apart =>
              rw [if_neg fun prior => apart (prior.trans (List.prefix_append q [name]))]
              exact T.closed below }
  else none

theorem move_node {T T' : Tree ν κ} {src dst : List ν} (moved : T.move src dst = some T') :
    T.Movable src dst ∧ ∀ q, T'.node q =
      if dst <+: q then T.node (src ++ q.drop dst.length) else if src <+: q then none else T.node q := by
  unfold move at moved
  split at moved
  next movable =>
    obtain rfl := Option.some.inj moved
    exact ⟨movable,fun q => rfl⟩
  next => contradiction

theorem move_movable (T : Tree ν κ) (src dst : List ν) :
    (∃ T', T.move src dst = some T') ↔ T.Movable src dst := by
  constructor
  · intro given
    obtain ⟨T',moved⟩ := given
    exact (move_node moved).1
  · intro movable
    exact ⟨_,dif_pos movable⟩

theorem move_arrived {T T' : Tree ν κ} {src dst : List ν} (moved : T.move src dst = some T')
    (r : List ν) : T'.node (dst ++ r) = T.node (src ++ r) := by
  rw [(move_node moved).2,if_pos (List.prefix_append _ _),List.drop_left]

theorem move_outside {T T' : Tree ν κ} {src dst : List ν} (moved : T.move src dst = some T') :
    SameOutside [src,dst] T T' := by
  intro q outside
  have notSrc := outside src List.mem_cons_self
  have notDst := outside dst (List.mem_cons_of_mem _ List.mem_cons_self)
  rw [(move_node moved).2,if_neg notDst,if_neg notSrc]

theorem move_left {T T' : Tree ν κ} {src dst : List ν} (moved : T.move src dst = some T')
    (apart : ¬dst <+: src) : T'.has src = false := by
  rw [has,(move_node moved).2,if_neg apart,if_pos (List.prefix_refl src)]
  rfl

end Tree

end FileTree
