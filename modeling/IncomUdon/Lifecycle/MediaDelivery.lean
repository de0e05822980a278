import IncomUdon.Lifecycle.MediaReplay

/-! Media delivery over UDP. A set of new counters that fits in one window reaches the receiver in
    any order, between packets that are forged or that repeat what was accepted already:

        fresh c₁ · forged · fresh c₂ · repeated c₁ · fresh c₃
          accept   reject   accept     reject        accept

    The window stands for the accepted counters and for nothing else, so it cannot tell the orders
    apart. CONFLUENCE: every delivery accepts the whole set, rejects the rest and ends in one
    window. -/

namespace IncomUdon.Lifecycle
open IncomUdon.Python IncomUdon.Lib.ReplayWindow

/-- What reaches the receiver: a new authentic packet, or any other packet. -/
inductive Arrival where
  | fresh (counter : ℕ)
  | noise (packet : MediaPacket)

namespace Arrival

/-- The packet that arrives; a new one authenticates. -/
def packet : Arrival → MediaPacket
  | fresh counter => ⟨counter, .str "valid"⟩
  | noise packet => packet

/-- The counter of a new packet. -/
def counter? : Arrival → Option ℕ
  | fresh counter => some counter
  | noise _ => none

theorem valid_fresh {counter : ℕ} : (fresh counter).packet.Valid := by
  simp [packet, MediaPacket.Valid]

end Arrival

/-- The packets of a delivery. -/
def packetsOf (arrivals : List Arrival) : List MediaPacket := arrivals.map Arrival.packet

/-- The new counters, in the order they are delivered. -/
def deliveries (arrivals : List Arrival) : List ℕ := arrivals.filterMap Arrival.counter?

/-- Each packet of the noise fails authentication or repeats a counter accepted before it. -/
def Harmless (window : ℕ) (before : List MediaPacket) (arrivals : List Arrival) : Prop :=
  ∀ early packet late, arrivals = early ++ .noise packet :: late →
    ¬packet.Valid ∨ packet.counter ∈ acceptedCounters window (before ++ packetsOf early)

/-- A delivery of the whole set, each counter once, with harmless noise. -/
structure Delivers (window : ℕ) (before : List MediaPacket) (counters : Finset ℕ)
    (arrivals : List Arrival) : Prop where
  once : (deliveries arrivals).Nodup
  complete : ∀ c, c ∈ deliveries arrivals ↔ c ∈ counters
  harmless : Harmless window before arrivals

/-- The counters are not remembered, and each is in the window of every other and of the mark. -/
structure Deliverable (window : ℕ) (state : Window ℕ) (counters : Finset ℕ) : Prop where
  unseen : ∀ c ∈ counters, c ∉ state.seen
  span : ∀ c ∈ counters, ∀ d, d ∈ counters ∨ d ∈ state.highest → ¬BelowWindow window d c

section Delivery
variable {window : ℕ} {before : List MediaPacket} {arrivals : List Arrival} {arrival : Arrival}
  {counters : Finset ℕ} {c : ℕ}

theorem packetsOf_append (arrivals more : List Arrival) :
    packetsOf (arrivals ++ more) = packetsOf arrivals ++ packetsOf more := List.map_append

theorem packetsOf_singleton (arrival : Arrival) : packetsOf [arrival] = [arrival.packet] := rfl

theorem packetsOf_cons (arrival : Arrival) (arrivals : List Arrival) :
    packetsOf (arrival :: arrivals) = arrival.packet :: packetsOf arrivals := rfl

@[simp] theorem length_packetsOf (arrivals : List Arrival) :
    (packetsOf arrivals).length = arrivals.length := List.length_map _

theorem deliveries_snoc (arrivals : List Arrival) (arrival : Arrival) :
    deliveries (arrivals ++ [arrival]) = deliveries arrivals ++ arrival.counter?.toList := by
  rw [deliveries, List.filterMap_append, deliveries]
  cases arrival <;> rfl

theorem deliveries_append (arrivals more : List Arrival) :
    deliveries (arrivals ++ more) = deliveries arrivals ++ deliveries more := List.filterMap_append

theorem harmless_nil : Harmless window before [] := fun early _ _ heq => by cases early <;> cases heq

/-- The first arrival is harmless, and the others are after it. -/
theorem harmless_cons : Harmless window before (arrival :: arrivals) ↔
    (∀ packet, arrival = .noise packet →
      ¬packet.Valid ∨ packet.counter ∈ acceptedCounters window before) ∧
    Harmless window (before ++ [arrival.packet]) arrivals := by
  constructor
  · refine fun h => ⟨fun packet heq => ?_, fun early packet late heq => ?_⟩
    · simpa [packetsOf] using h [] packet arrivals (by rw [heq, List.nil_append])
    · have := h (arrival :: early) packet late (by rw [heq, List.cons_append])
      rwa [packetsOf_cons, List.append_cons] at this
  · rintro ⟨hfirst, hrest⟩ early packet late heq
    cases early with
    | nil =>
      rw [List.nil_append, List.cons.injEq] at heq
      obtain ⟨rfl, -⟩ := heq
      simpa [packetsOf] using hfirst packet rfl
    | cons first early =>
      rw [List.cons_append, List.cons.injEq] at heq
      obtain ⟨rfl, heq⟩ := heq
      rw [packetsOf_cons, List.append_cons]
      exact hrest early packet late heq

theorem Harmless.of_append {more : List Arrival} (h : Harmless window before (arrivals ++ more)) :
    Harmless window before arrivals := fun early packet late heq =>
  h early packet (late ++ more) (by rw [heq, List.append_assoc, List.cons_append])

/-- A deliverable counter was never accepted, and no accepted counter makes it stale. -/
theorem Deliverable.freshIn (hd : Deliverable window (windowAfter window before) counters)
    (hc : c ∈ counters) :
    FreshIn (BelowWindow window) {counter | counter ∈ acceptedCounters window before} c := by
  have hr := windowAfter_represents window before
  have hstale : ∀ h ∈ (windowAfter window before).highest, ¬BelowWindow window h c :=
    fun h hh => hd.span c hc h (Or.inr hh)
  exact hr.fresh_iff.mp ⟨hstale, hd.unseen c hc⟩

/-- STEP: after part of a delivery, a new packet is accepted and noise is not. -/
theorem accept_arrival_iff (hd : Deliverable window (windowAfter window before) counters)
    (hsub : ∀ c ∈ deliveries (arrivals ++ [arrival]), c ∈ counters)
    (hnodup : (deliveries (arrivals ++ [arrival])).Nodup)
    (hnoise : Harmless window before (arrivals ++ [arrival]))
    (haccepted : ∀ c, c ∈ acceptedCounters window (before ++ packetsOf arrivals) ↔
      c ∈ acceptedCounters window before ∨ c ∈ deliveries arrivals) :
    (mediaReplayTransition window (windowAfter window (before ++ packetsOf arrivals))
      arrival.packet).1 = .accept ↔ ∃ c, arrival = .fresh c := by
  rw [decisions_accept_iff]
  cases arrival with
  | fresh c =>
    rw [deliveries_snoc] at hsub hnodup
    have hc : c ∈ counters := hsub c (List.mem_append_right _ (List.mem_singleton_self c))
    have hnew : c ∉ deliveries arrivals := fun h =>
      (List.nodup_append.mp hnodup).2.2 c h c (List.mem_singleton_self c) rfl
    have hfresh : FreshIn (BelowWindow window) ({d | d ∈ acceptedCounters window before} ∪
        {d | d ∈ deliveries arrivals}) c :=
      (hd.freshIn hc).union hnew fun d hdel =>
        hd.span c hc d (Or.inl (hsub d (List.mem_append_left _ hdel)))
    have hset : {d | d ∈ acceptedCounters window (before ++ packetsOf arrivals)}
        = {d | d ∈ acceptedCounters window before} ∪ {d | d ∈ deliveries arrivals} :=
      Set.ext haccepted
    rw [hset]
    exact ⟨fun _ => ⟨c, rfl⟩, fun _ => ⟨Arrival.valid_fresh, hfresh⟩⟩
  | noise packet =>
    constructor
    · rintro ⟨hvalid, -, hnew⟩
      rcases hnoise arrivals packet [] rfl with h | h
      · exact absurd hvalid h
      · exact absurd h hnew
    · rintro ⟨c, hc⟩
      cases hc

/-- RUN: a delivery adds its new counters to those accepted before, and no others. -/
theorem mem_acceptedCounters_delivery
    (hd : Deliverable window (windowAfter window before) counters)
    (hsub : ∀ c ∈ deliveries arrivals, c ∈ counters) (hnodup : (deliveries arrivals).Nodup)
    (hnoise : Harmless window before arrivals) :
    ∀ c, c ∈ acceptedCounters window (before ++ packetsOf arrivals) ↔
      c ∈ acceptedCounters window before ∨ c ∈ deliveries arrivals := by
  induction arrivals using List.reverseRecOn with
  | nil => simp [packetsOf, deliveries]
  | append_singleton arrivals arrival ih =>
    have hsplit := deliveries_snoc arrivals arrival
    have hprefix : ∀ c, c ∈ acceptedCounters window (before ++ packetsOf arrivals) ↔ _ :=
      ih (fun c hc => hsub c (hsplit ▸ List.mem_append_left _ hc))
        (List.Nodup.of_append_left (hsplit ▸ hnodup)) hnoise.of_append
    have haccept := accept_arrival_iff hd hsub hnodup hnoise hprefix
    intro c
    rw [packetsOf_append, packetsOf_singleton, ← List.append_assoc, acceptedCounters_snoc, hsplit,
      List.mem_append, List.mem_append, hprefix, or_assoc]
    refine or_congr_right (or_congr_right ?_)
    cases arrival with
    | fresh c' => rw [if_pos (haccept.mpr ⟨c', rfl⟩)]; rfl
    | noise packet =>
      rw [if_neg fun h => by obtain ⟨c', hc'⟩ := haccept.mp h; cases hc']
      rfl

/-- Two deliveries of one set leave the same accepted counters, hence the same window. -/
theorem windowAfter_delivery (hd : Deliverable window (windowAfter window before) counters)
    {arrivals arrivals' : List Arrival} (h : Delivers window before counters arrivals)
    (h' : Delivers window before counters arrivals') :
    windowAfter window (before ++ packetsOf arrivals)
      = windowAfter window (before ++ packetsOf arrivals') := by
  have hset : ∀ {arrivals}, Delivers window before counters arrivals →
      {c | c ∈ acceptedCounters window (before ++ packetsOf arrivals)}
        = {c | c ∈ acceptedCounters window before ∨ c ∈ counters} := by
    intro arrivals h
    ext c
    simp only [Set.mem_ofPred_eq, ← h.complete]
    exact mem_acceptedCounters_delivery hd (fun c => (h.complete c).mp) h.once h.harmless c
  have hr := windowAfter_represents window (before ++ packetsOf arrivals)
  have hr' := windowAfter_represents window (before ++ packetsOf arrivals')
  rw [hset h] at hr
  rw [hset h'] at hr'
  exact hr.unique hr'

/-- Anywhere in a delivery, a new packet is accepted and noise is not. -/
theorem accept_delivery_iff (hd : Deliverable window (windowAfter window before) counters)
    {early late : List Arrival}
    (h : Delivers window before counters (early ++ arrival :: late)) :
    (mediaReplayTransition window (windowAfter window (before ++ packetsOf early))
      arrival.packet).1 = .accept ↔ ∃ c, arrival = .fresh c := by
  have hsplit : early ++ arrival :: late = early ++ [arrival] ++ late := by simp
  have hdeliveries := deliveries_append (early ++ [arrival]) late
  have honce := h.once
  have hcomplete := h.complete
  have hnoise := h.harmless
  rw [hsplit] at honce hcomplete hnoise
  rw [hdeliveries] at honce hcomplete
  have hsub : ∀ c ∈ deliveries (early ++ [arrival]), c ∈ counters := fun c hc =>
    (hcomplete c).mp (List.mem_append_left _ hc)
  refine accept_arrival_iff hd hsub honce.of_append_left hnoise.of_append ?_
  rw [deliveries_append] at honce hsub
  exact mem_acceptedCounters_delivery hd (fun c hc => hsub c (List.mem_append_left _ hc))
    honce.of_append_left.of_append_left hnoise.of_append.of_append

/-- The answer to a packet in the middle of a run. -/
theorem getElem?_decisions_middle (window : ℕ) (early late : List MediaPacket)
    (packet : MediaPacket) :
    (decisions window (early ++ packet :: late))[early.length]? =
      some (mediaReplayTransition window (windowAfter window early) packet).1 := by
  have hk : early.length < (early ++ packet :: late).length := by simp
  have h : (decisions window (early ++ packet :: late))[early.length]? = _ :=
    getElem_decisions (early ++ packet :: late) ⟨early.length, hk⟩
  simpa using h

end Delivery

/-- CONFLUENCE: from any reachable window, any set of unseen counters that spans at most 64 values
    with the mark is accepted in full, whatever the order and whatever harmless packets come in
    between; of those none is accepted, and all these deliveries end in the same window. -/
theorem mediaReplay_delivery (before : List MediaPacket) (counters : Finset ℕ)
    (hunseen : ∀ c ∈ counters, c ∉ (windowAfter 64 before).seen)
    (hspan : ∀ c ∈ counters, ∀ d, d ∈ counters ∨ d ∈ (windowAfter 64 before).highest → d ≤ c + 63) :
    (∀ arrivals, Delivers 64 before counters arrivals → ∀ early arrival late,
      arrivals = early ++ arrival :: late →
        ((decisions 64 (before ++ packetsOf arrivals))[before.length + early.length]? = some .accept
          ↔ ∃ c, arrival = .fresh c)) ∧
    ∀ arrivals arrivals', Delivers 64 before counters arrivals →
      Delivers 64 before counters arrivals' →
        windowAfter 64 (before ++ packetsOf arrivals)
          = windowAfter 64 (before ++ packetsOf arrivals') := by
  have hd : Deliverable 64 (windowAfter 64 before) counters :=
    ⟨hunseen, fun c hc d hmem => by
      rw [not_belowWindow_iff]
      have := hspan c hc d hmem
      omega⟩
  refine ⟨?_, fun arrivals arrivals' => windowAfter_delivery hd⟩
  rintro arrivals h early arrival late rfl
  have hindex := getElem?_decisions_middle 64 (before ++ packetsOf early) (packetsOf late)
    arrival.packet
  rw [List.length_append, length_packetsOf, List.append_assoc] at hindex
  rw [packetsOf_append, packetsOf_cons, hindex, Option.some.injEq]
  exact accept_delivery_iff hd h

/-- Two counters on either side of the mark, delivered in both orders; the second delivery repeats
    one of them and has a forged packet. -/
theorem mediaReplay_delivery_both_orders :
    windowAfter 64 (([⟨100, .str "valid"⟩] : List MediaPacket) ++ packetsOf [.fresh 99, .fresh 120])
      = windowAfter 64 (([⟨100, .str "valid"⟩] : List MediaPacket) ++ packetsOf
          [.fresh 120, .noise ⟨120, .str "valid"⟩, .noise ⟨99, .str "invalid"⟩, .fresh 99]) := by
  have hquiet : Harmless 64 [⟨100, .str "valid"⟩] [.fresh 99, .fresh 120] := by
    simp [harmless_cons, harmless_nil]
  have hnoise : Harmless 64 [⟨100, .str "valid"⟩]
      [.fresh 120, .noise ⟨120, .str "valid"⟩, .noise ⟨99, .str "invalid"⟩, .fresh 99] := by
    simp only [harmless_cons, reduceCtorEq, IsEmpty.forall_iff, implies_true, Arrival.noise.injEq,
      forall_eq', harmless_nil, and_true, true_and]
    exact ⟨Or.inr (by decide), Or.inl (by decide)⟩
  refine (mediaReplay_delivery [⟨100, .str "valid"⟩] {99, 120} (by decide) ?_).2 _ _
    ⟨by decide, by simp [deliveries, Arrival.counter?], hquiet⟩
    ⟨by decide, by simp [deliveries, Arrival.counter?, or_comm, eq_comm], hnoise⟩
  have hmark : (windowAfter 64 [⟨100, .str "valid"⟩]).highest = some 100 := by decide
  simp only [hmark, Finset.mem_insert, Finset.mem_singleton, Option.mem_some_iff]
  omega

end IncomUdon.Lifecycle
