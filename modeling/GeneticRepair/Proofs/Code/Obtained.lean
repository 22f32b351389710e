import GeneticRepair.Code.OperatorSite
import GeneticRepair.Proofs.Code.Edit
import GeneticRepair.Proofs.Code.NodeReader
import GeneticRepair.Proofs.Outcome

/-!
# Whatever transformations make

A transformation can be asked for at any paths and sites, whether the module has statements and
operators there or not: it is refused, or changes whatever it finds. In no case does a node get a
block that its label does not have.
-/

namespace GeneticRepair.Code

variable {α β : Type} {n m : Node} {ns : List Node} {field : Field} {l l' : Label}

/-- A part that holds no node, or a node that is built. -/
def Part.Built : Part → Prop
  | .node n => n.Built
  | _ => True

def Attribute.Built : Attribute → Prop
  | .list ps => ∀ p ∈ ps, p.Built
  | _ => True

/-- If something is not refused, its outcome is as said. -/
abbrev Gives (value : α → Prop) (x : Except PathError α) : Prop :=
  Meets value (fun _ => True) x

private theorem gives_any (x : Except PathError α) : Gives (fun _ => True) x := by
  cases x <;> trivial

private theorem gives_mapM {value : β → Prop} {f : α → Except PathError β} {xs : List α}
    (h : ∀ a ∈ xs, Gives value (f a)) : Gives (fun bs => ∀ b ∈ bs, value b) (xs.mapM f) := by
  induction xs with
  | nil => exact fun _ hb => nomatch hb
  | cons a xs ih =>
    rw [List.forall_mem_cons] at h
    rw [List.mapM_cons]
    exact h.1.bind fun b hb => (ih h.2).bind fun bs hbs => List.forall_mem_cons.mpr ⟨hb, hbs⟩

namespace Node

private theorem built_setBlock (hn : n.Built) (hfield : n.hasBlock field = true ∨ ns = [])
    (hns : ∀ m ∈ ns, m.Built) : (n.setBlock field ns).Built := by
  obtain ⟨hframed, hchildren⟩ := built_iff.mp hn
  exact built_iff.mpr ⟨hframed.setBlock hfield, fun m hm =>
    (mem_children_setBlock hm).elim (hns m) (hchildren m)⟩

private theorem built_of_fields_eq {s s' : Span} {ts ts' : List Term} {b o h f c : List Node}
    (hn : (mk l s ts b o h f c).Built) (hl : l'.fields = l.fields) :
    (mk l' s' ts' b o h f c).Built := by
  obtain ⟨hframed, hchildren⟩ := built_iff.mp hn
  refine built_iff.mpr ⟨fun field hfield => ?_, hchildren⟩
  have hnil := hframed field (by simpa [hl] using hfield)
  cases field <;> exact hnil

private theorem fields_resize (length : Nat) (l : Label) (name : String) :
    (l.resize length name).fields = l.fields := by
  unfold Label.resize
  split <;> rfl

private theorem Built.toPart (hn : n.Built) : n.toPart.Built := by
  unfold Node.toPart
  split
  · trivial
  · exact hn

end Node

namespace Part

variable {p : Part} {ps : List Part}

private theorem Built.toNode (hp : p.Built) : Gives Node.Built p.toNode := by
  cases p with
  | node n => exact hp
  | term t => exact Node.built_simple
  | word s => trivial
  | absent => trivial

private theorem built_toPart (t : Term) : t.toPart.Built := by
  unfold Term.toPart
  split
  · exact Node.built_simple
  · trivial

private theorem built_ofKeys (keyed : List Bool) (ts : List Term) :
    ∀ p ∈ ofKeys keyed ts, p.Built := by
  fun_induction ofKeys keyed ts with
  | case1 keyed t ts ih => exact List.forall_mem_cons.mpr ⟨built_toPart t, ih⟩
  | case2 keyed ih => exact List.forall_mem_cons.mpr ⟨trivial, ih⟩
  | case3 keyed ts ih => exact List.forall_mem_cons.mpr ⟨trivial, ih⟩
  | case4 => exact fun _ hp => nomatch hp

private theorem built_slice {slice : Option (Nat × Nat)} {ts : List Term}
    (h : (slice.map fun (start, length) => ((ts.drop start).take length).map Term.toPart) =
      some ps) : ∀ q ∈ ps, q.Built := by
  obtain ⟨_, -, rfl⟩ := Option.map_eq_some_iff.mp h
  intro q hq
  obtain ⟨t, -, rfl⟩ := List.mem_map.mp hq
  exact built_toPart t

private theorem Built.list? (hp : p.Built) (h : p.list? field = some ps) : ∀ q ∈ ps, q.Built := by
  cases p with
  | node n =>
    simp only [Part.list?, Node.list?] at h
    split at h
    · obtain rfl := Option.some.inj h
      intro q hq
      obtain ⟨m, hm, rfl⟩ := List.mem_map.mp hq
      exact (Node.Built.of_mem hp (n.rawBlock_subset_children field hm)).toPart
    · split at h
      · cases h
        simp
      · cases h
        simp [Part.Built]
      · cases h
        simp [Part.Built]
      · exact built_slice h
  | term t =>
    obtain ⟨head, line, ts⟩ := t
    simp only [Part.list?, Term.list?] at h
    split at h
    · cases h
      simp [Part.Built]
    · cases h
      exact built_ofKeys _ _
    · exact built_slice h
  | word s => cases h
  | absent => cases h

private theorem built_plainAttribute {attributes spans : List String} {word : Option String}
    {name : String}
    {a : Attribute} (h : plainAttribute attributes spans word name = some a) : a.Built := by
  unfold plainAttribute at h
  split at h
  · cases h
    trivial
  · split_ifs at h <;> cases h <;> trivial

private theorem Built.get (hp : p.Built) (field : Field) : Gives Attribute.Built (p.get field) := by
  unfold Part.get
  split
  · trivial
  · rename_i h
    exact hp.list? h
  · split
    · rename_i h
      exact built_plainAttribute h
    · trivial
  · split
    · rename_i h
      exact built_plainAttribute h
    · trivial
  · trivial

private theorem Built.setList (hp : p.Built) (hps : ∀ q ∈ ps, q.Built) (field : Field) :
    Gives Part.Built (p.setList field ps) := by
  cases p with
  | node n =>
    have hnode : Gives Node.Built (n.setList field ps) := by
      unfold Node.setList
      split
      · rename_i hblock
        exact (gives_mapM fun q hq => (hps q hq).toNode).bind fun ns hns =>
          Node.built_setBlock hp (.inl hblock) hns
      · obtain ⟨l, s, ts, b, o, h, f, c⟩ := n
        simp only
        split
        · exact (gives_any _).bind fun _ _ => Node.built_of_fields_eq hp rfl
        · exact (gives_any _).bind fun _ _ => Node.built_of_fields_eq hp rfl
        · split
          · exact (gives_any _).bind fun _ _ =>
              Node.built_of_fields_eq hp (Node.fields_resize _ _ _)
          · trivial
    exact hnode.bind fun n hn => hn
  | term t => exact (gives_any _).bind fun _ _ => trivial
  | word s => trivial
  | absent => trivial

/-! ## Paths -/

private theorem built_pickFrom (hps : ∀ q ∈ ps, q.Built) (i : Position) :
    Gives Part.Built (pickFrom ps i) := by
  refine (gives_any _).bind fun index _ => ?_
  split
  · rename_i h
    exact hps _ (List.mem_of_getElem? h)
  · trivial

private theorem built_pick {a : Attribute} (ha : a.Built) (i : Position) :
    Gives Part.Built (pick a i) := by
  cases a with
  | list ps => exact built_pickFrom ha i
  | fixed words => exact built_pickFrom (by simp [Part.Built]) i
  | value => trivial

private theorem Built.locate (hp : p.Built) (path : Path) :
    Gives (fun found => found.1.Built) (p.locate path) := by
  induction path generalizing p with
  | nil => trivial
  | cons step path ih =>
    cases path with
    | nil => exact (hp.get _).bind fun a ha => ha
    | cons step' path =>
      exact (hp.get _).bind fun a ha => (built_pick ha _).bind fun q hq => ih hq

private theorem Built.follow (hp : p.Built) (path : Path) : Gives Part.Built (p.follow path) :=
  (hp.locate path).bind fun found hfound => built_pick hfound found.2

/-- The change of a list keeps its parts built. -/
def KeepsBuilt (change : Attribute → Position → Except PathError (List Part)) : Prop :=
  ∀ a i, a.Built → Gives (fun ps => ∀ q ∈ ps, q.Built) (change a i)

private theorem Built.modifyList {change : Attribute → Position → Except PathError (List Part)}
    (hchange : KeepsBuilt change) (hp : p.Built) (path : Path) :
    Gives Part.Built (modifyList change p path) := by
  induction path generalizing p with
  | nil => trivial
  | cons step path ih =>
    cases path with
    | nil =>
      exact (hp.get _).bind fun a ha => (hchange a _ ha).bind fun ps hps => hp.setList hps _
    | cons step' path =>
      refine (hp.get _).bind fun a ha => ?_
      cases a with
      | list ps =>
        refine (built_pickFrom ha _).bind fun q hq => (ih hq).bind fun inner hinner => ?_
        refine (gives_any _).bind fun index _ => hp.setList (fun q hq => ?_) _
        rcases List.mem_or_eq_of_mem_set hq with hq | rfl
        · exact ha q hq
        · exact hinner
      | fixed words => exact (built_pick ha _).bind fun q hq => ih hq
      | value => trivial

private theorem keepsBuilt_insertInto {donation : Part} (h : donation.Built) :
    KeepsBuilt (insertInto donation) := by
  intro a i ha
  cases a with
  | list ps =>
    refine (gives_any _).bind fun index _ q hq => ?_
    rcases List.eq_or_mem_of_mem_insertIdx hq with rfl | hq
    · exact h
    · exact ha q hq
  | fixed words => trivial
  | value => trivial

private theorem keepsBuilt_deleteFrom : KeepsBuilt deleteFrom := by
  intro a i ha
  cases a with
  | list ps => exact (gives_any _).bind fun index _ q hq => ha q (List.mem_of_mem_eraseIdx hq)
  | fixed words => trivial
  | value => trivial

private theorem keepsBuilt_replaceIn {other : Part} (h : other.Built) :
    KeepsBuilt (replaceIn other) := by
  intro a i ha
  cases a with
  | list ps =>
    refine (gives_any _).bind fun index _ q hq => ?_
    rcases List.mem_or_eq_of_mem_set hq with hq | rfl
    · exact ha q hq
    · exact h
  | fixed words => trivial
  | value => trivial

private theorem Built.replaceAt {other : Part} (hp : p.Built) (hother : other.Built) (path : Path) :
    Gives Part.Built (p.replaceAt path other) :=
  hp.modifyList (keepsBuilt_replaceIn hother) path

private theorem Built.swapAt (hp : p.Built) (x y : Path) : Gives Part.Built (p.swapAt x y) := by
  refine (hp.locate x).bind fun foundX hX => (hp.locate y).bind fun foundY hY => ?_
  refine (built_pick hY _).bind fun partY hpartY => (built_pick hX _).bind fun partX hpartX => ?_
  refine (gives_any _).bind fun _ _ => (gives_any _).bind fun _ _ => ?_
  refine (gives_any _).bind fun placeX _ => (gives_any _).bind fun placeY _ => ?_
  split
  · exact hp.replaceAt hpartY x
  · split
    · exact hp.replaceAt hpartX y
    · exact (hp.replaceAt hpartY x).bind fun q hq => hq.replaceAt hpartX y

private theorem Built.tidied (hp : p.Built) : Gives Node.Built p.tidied :=
  hp.toNode.bind fun _ hn => Node.built_tidy hn

end Part

namespace Node

/-! ## Transformations -/

variable {other : Node} {target donor mine theirs : Statement}

private theorem Built.node (hn : n.Built) : (Part.node n).Built :=
  hn

private theorem Built.delete (hn : n.Built) (target : Statement) :
    Gives Node.Built (n.delete target) :=
  (hn.node.modifyList Part.keepsBuilt_deleteFrom target.path).bind fun _ hp => hp.tidied

private theorem Built.insert (hn : n.Built) (target donor : Statement) :
    Gives Node.Built (n.insert target donor) :=
  (hn.node.follow donor.path).bind fun _ hdonation =>
    (hn.node.modifyList (Part.keepsBuilt_insertInto hdonation) target.path).bind
      fun _ hp => hp.tidied

private theorem Built.swap (hn : n.Built) (x y : Statement) : Gives Node.Built (n.swap x y) :=
  (hn.node.swapAt x.path y.path).bind fun _ hp => hp.tidied

private theorem Built.exchange (hn : n.Built) (hother : other.Built) (mine theirs : Statement) :
    Gives (fun made => made.1.Built ∧ made.2.Built) (n.exchange other mine theirs) := by
  refine (hn.node.locate mine.path).bind fun myFound hmyFound => ?_
  refine (hother.node.locate theirs.path).bind fun theirFound htheirFound => ?_
  refine (Part.built_pick htheirFound _).bind fun theirPart htheirPart => ?_
  refine (Part.built_pick hmyFound _).bind fun myPart hmyPart => ?_
  refine (gives_any _).bind fun _ _ => (gives_any _).bind fun _ _ => ?_
  refine (hn.node.replaceAt htheirPart mine.path).bind fun child hchild => ?_
  refine (hother.node.replaceAt hmyPart theirs.path).bind fun otherChild hotherChild => ?_
  exact hchild.tidied.bind fun r hr => hotherChild.tidied.bind fun s hs => ⟨hr, hs⟩

private theorem built_setOperator (hn : n.Built) (position : Nat) (op : Operator)
    (address : Address) :
    (n.setOperator position op address).Built := by
  induction address generalizing n with
  | nil =>
    unfold setOperator
    exact hn
  | cons step address ih =>
    cases step with
    | term i =>
      obtain ⟨l, s, ts, b, o, h, f, c⟩ := n
      exact built_of_fields_eq hn rfl
    | block field i =>
      have hblock : ∀ m ∈ n.rawBlock field, m.Built := fun m hm =>
        hn.of_mem (n.rawBlock_subset_children field hm)
      unfold setOperator
      refine built_setBlock hn ?_ fun m hm => ?_
      · by_cases hfield : n.hasBlock field = true
        · exact .inl hfield
        · have hnil := (built_iff.mp hn).1 field (mt hasBlock_iff.mpr hfield)
          exact .inr (by rw [hnil, List.modify_nil])
      · cases hchild : (n.rawBlock field)[i]? with
        | none =>
          rw [List.modify_eq_self (List.getElem?_eq_none_iff.mp hchild)] at hm
          exact hblock m hm
        | some child =>
          rw [modify_eq_set _ hchild] at hm
          rcases List.mem_or_eq_of_mem_set hm with hm | rfl
          · exact hblock m hm
          · exact ih (hblock child (List.mem_of_getElem? hchild))

private theorem Built.withOperator (hn : n.Built) (site : OperatorSite) (op : Operator) :
    (n.withOperator site op).Built := by
  unfold Node.withOperator
  split
  · exact built_tidy (built_setOperator hn _ _ _)
  · exact built_tidy hn

/-- A module that has been parsed, or made of such modules by transformations. What a transformation
is asked for need not be a statement or a site of the module. -/
inductive Obtained : Node → Prop
  | parsed {lines : List String} {module : Node} (h : parseLines lines = .ok module) :
    Obtained module
  | deleted {n r : Node} {target : Statement} (hn : Obtained n) (made : n.delete target = .ok r) :
    Obtained r
  | inserted {n r : Node} {target donor : Statement} (hn : Obtained n)
      (made : n.insert target donor = .ok r) : Obtained r
  | swapped {n r : Node} {x y : Statement} (hn : Obtained n) (made : n.swap x y = .ok r) :
    Obtained r
  | exchanged {n other r s : Node} {mine theirs : Statement} (hn : Obtained n)
      (hother : Obtained other) (made : n.exchange other mine theirs = .ok (r, s)) : Obtained r
  | received {n other r s : Node} {mine theirs : Statement} (hn : Obtained n)
      (hother : Obtained other) (made : n.exchange other mine theirs = .ok (r, s)) : Obtained s
  | operated {n : Node} {site : OperatorSite} {op : Operator} (hn : Obtained n) :
    Obtained (n.withOperator site op)

theorem Obtained.built (hn : n.Obtained) : n.Built := by
  induction hn with
  | parsed h => exact (shaped_parseLines h).built
  | deleted _ made hn => exact (hn.delete _).of_ok made
  | inserted _ made hn => exact (hn.insert _ _).of_ok made
  | swapped _ made hn => exact (hn.swap _ _).of_ok made
  | exchanged _ _ made hn hother => exact ((hn.exchange hother _ _).of_ok made).1
  | received _ _ made hn hother => exact ((hn.exchange hother _ _).of_ok made).2
  | operated _ hn => exact hn.withOperator _ _

end Node

end GeneticRepair.Code
