import SqlBridge.Proofs.Registry.Session

/-!
# Registries that hold the same

What a registry answers hangs on what stands under each key of its tables and on the options for literals
and for parts of keys. The order of the keys and the other options are never seen: registries that agree
on the former reply alike to whatever a program does with them.
-/

namespace SqlBridge.Registry

/-- The same stands under every key, and literals and parts of keys are treated alike. -/
structure HoldsSame (r r' : Registry) : Prop where
  literals : r.literals = r'.literals
  keySize : r.options.keySize = r'.options.keySize
  stores (name : String) : Entries.get? name r.stores = Entries.get? name r'.stores
  hosts (host : HostType) : Entries.get? host r.hosts = Entries.get? host r'.hosts
  ranges (host : HostType) : Entries.all host r.ranges = Entries.all host r'.ranges
  multiranges (host : HostType) : Entries.all host r.multiranges = Entries.all host r'.multiranges
  userRanges : r.userRanges = r'.userRanges

variable {r r' : Registry}

namespace HoldsSame

/-! ## Answers -/

lemma named (h : r.HoldsSame r') (name : String) : r.named name = r'.named name :=
  congrArg (Option.getD · []) (h.stores name)

lemma isNamed (h : r.HoldsSame r') (name : String) : r.isNamed name = r'.isNamed name :=
  congrArg Option.isSome (h.stores name)

lemma isHosted (h : r.HoldsSame r') (host : HostType) : r.isHosted host = r'.isHosted host :=
  congrArg Option.isSome (h.hosts host)

lemma first? (h : r.HoldsSame r') (name : String) : r.first? name = r'.first? name :=
  congrArg List.head? (h.named name)

lemma byName (h : r.HoldsSame r') (name : String) (host : Option HostType) :
    r.byName name host = r'.byName name host := by
  simp only [Registry.byName, candidates, h.isNamed, h.named]

lemma decide (h : r.HoldsSame r') (q : Request) : r.decide q = r'.decide q := by
  have hstore (store : String) : r.decideByStore store q = r'.decideByStore store q := by
    simp only [decideByStore, h.literals, h.byName]
  have hhost (host : HostType) : r.decideByHost host q = r'.decideByHost host q := by
    simp only [decideByHost, sized, sizeFor, h.literals, h.keySize, h.hosts, h.first?]
  simp only [Registry.decide, hstore, hhost]

lemma settle (h : r.HoldsSame r') (q : Request) (element : Option Descriptor) :
    r.settle q element = r'.settle q element := by
  rw [Registry.settle, Registry.settle, userRange?, userRange?, h.userRanges]

theorem find (h : r.HoldsSame r') (q : Request) : r.find q = r'.find q := by
  induction q using find.induct r with
  | case1 q d hdecide => rw [Registry.find, Registry.find, ← h.decide, hdecide]
  | case2 q hdecide => rw [Registry.find, Registry.find, ← h.decide, hdecide]
  | case3 q hdecide q' hq' ih =>
    rw [find_of_unsettled hdecide, find_of_unsettled ((h.decide q).symm.trans hdecide), hq',
      Option.bind_some, Option.bind_some, ih, h.settle]
  | case4 q hdecide hq' =>
    rw [find_of_unsettled hdecide, find_of_unsettled ((h.decide q).symm.trans hdecide), hq',
      Option.bind_none, Option.bind_none, h.settle]

/-! ## Registrations -/

/-- The results of a registration are the same, and what they are about as well. -/
def Matches (result result' : Except Fault Descriptor × Registry) : Prop :=
  result.1 = result'.1 ∧ result.2.HoldsSame result'.2

lemma addEnum (h : r.HoldsSame r') (d : Descriptor) : (addEnum d r).HoldsSame (addEnum d r') where
  literals := h.literals
  keySize := h.keySize
  stores name := by
    show Entries.get? name (Entries.push d.storeType d r.stores) =
      Entries.get? name (Entries.push d.storeType d r'.stores)
    rw [Entries.get?_push, Entries.get?_push, Entries.all, Entries.all, h.stores]
  hosts host := by
    show Entries.get? host (Entries.set d.hostType d r.hosts) =
      Entries.get? host (Entries.set d.hostType d r'.hosts)
    rw [Entries.get?_set, Entries.get?_set, h.hosts]
  ranges := h.ranges
  multiranges := h.multiranges
  userRanges := h.userRanges

lemma addUserRange (h : r.HoldsSame r') (subtype : HostType) (d : Descriptor) :
    (addUserRange subtype d r).HoldsSame (addUserRange subtype d r') where
  literals := h.literals
  keySize := h.keySize
  stores := h.stores
  hosts := h.hosts
  ranges host := by
    show Entries.all host (Entries.push subtype d r.ranges) =
      Entries.all host (Entries.push subtype d r'.ranges)
    rw [Entries.all_push, Entries.all_push, h.ranges]
  multiranges := h.multiranges
  userRanges := congrArg (· ++ [d]) h.userRanges

lemma registerEnum (h : r.HoldsSame r') (d : EnumDefinition) :
    Matches (r.commit (r.registerEnum d)) (r'.commit (r'.registerEnum d)) := by
  have hsame : r.enumDescriptor d = r'.enumDescriptor d := by
    rw [enumDescriptor, enumDescriptor, h.literals]
  rw [Registry.registerEnum, Registry.registerEnum, h.isNamed, h.isHosted, hsame]
  split
  · exact ⟨rfl, h⟩
  · exact ⟨rfl, h.addEnum _⟩

lemma registerRange (h : r.HoldsSame r') (d : RangeDefinition) :
    Matches (r.commit (r.registerRange d)) (r'.commit (r'.registerRange d)) := by
  have htaken : r.isTaken d.qualifiedName = r'.isTaken d.qualifiedName := by
    rw [isTaken, isTaken, isUserRange, isUserRange, h.isNamed, h.userRanges]
  rw [Registry.registerRange, Registry.registerRange, htaken, h.find]
  split
  · exact ⟨rfl, h⟩
  · cases r'.find (subtypeRequest d) with
    | none => exact ⟨rfl, h⟩
    | some s => exact ⟨rfl, h.addUserRange _ _⟩

/-! ## Sessions -/

/-- A step gets the same reply from both, and they still hold the same after it. -/
lemma step (h : r.HoldsSame r') (s : Step) :
    (r.step s).1 = (r'.step s).1 ∧ (r.step s).2.HoldsSame (r'.step s).2 := by
  cases s with
  | enumeration d => exact ⟨congrArg Reply.outcome (h.registerEnum d).1, (h.registerEnum d).2⟩
  | userRange d => exact ⟨congrArg Reply.outcome (h.registerRange d).1, (h.registerRange d).2⟩
  | find q => exact ⟨congrArg Reply.answer (h.find q), h⟩
  | require q => exact ⟨congrArg (Reply.outcome <| orFault _ ·) (h.find q), h⟩
  | property p => exact ⟨congrArg (Reply.mapping <| Option.map p.mapping ·) (h.find p.request), h⟩
  | range subtype =>
    exact ⟨congrArg (Reply.answer <| List.find? (isOver subtype) ·) (h.ranges subtype.hostType), h⟩
  | multirange subtype =>
    exact ⟨congrArg (Reply.answer <| List.find? (isOver subtype) ·) (h.multiranges subtype.hostType), h⟩
  | array element nullable => exact ⟨rfl, h⟩

/-- A session gets the same replies from both. -/
theorem session (h : r.HoldsSame r') (steps : List Step) :
    (session Registry.step steps r).1 = (session Registry.step steps r').1 := by
  induction steps generalizing r r' with
  | nil => rfl
  | cons s steps ih =>
    obtain ⟨hreply, hnext⟩ := h.step s
    exact congrArg₂ List.cons hreply (ih hnext)

end HoldsSame

end SqlBridge.Registry
