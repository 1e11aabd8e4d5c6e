import TapeDeck.Proofs.Program.Balance
import TapeDeck.Proofs.Program.Tree

/-!
# The bracket pairs of any program

Bytes are always a tree with stray brackets behind it, first closing ones and then opening ones,
each with a tree of its own (`exists_split`). Applied to what follows an opening bracket, this says
what the scan from there finds: the bracket that ends a loop, or nothing when no stray closing
bracket comes. So the pairs of a program are the loops that are written in it (`LoopAt`), seen from
either end (`partnerOf?_eq_some_iff`), whether the program is balanced or not.

The rest is about loops. A bracket inside a tree belongs to a loop inside that tree
(`HasTree.loop_at`), so pairs are nested or disjoint and leave nothing unmatched between them; and
behind an opening bracket that is never closed every closing one ends a loop
(`loopAt_of_unclosed`).

* **`allPaired_iff_exists_tree`**: no bracket is without a partner exactly when the program is the
  source of a tree.
* **`listing_canonical`**: a listing has all that `CanonicalMatching` asks for, and is the only list
  of entries that has.
-/

namespace TapeDeck

/-! ## Stray brackets -/

/-- Trees with the byte `b` before each. -/
def strays (b : UInt8) (Ps : List Tree) : Bytes :=
  Ps.flatMap fun P => b :: P.source

/-- **Any bytes are a tree, then stray closing brackets, then stray opening ones**, with a tree
behind each. -/
theorem exists_split (bs : Bytes) :
    ∃ (P : Tree) (Cs Os : List Tree),
      bs = P.source ++ strays closeByte Cs ++ strays openByte Os := by
  induction bs with
  | nil => exact ⟨.nil, [], [], rfl⟩
  | cons b bs ih =>
    obtain ⟨P, Cs, Os, rfl⟩ := ih
    by_cases ho : b = openByte
    · subst ho
      cases Cs with
      | nil => exact ⟨.nil, [], P :: Os, by simp [strays, Tree.source]⟩
      | cons Q Cs =>
        -- the new bracket is closed by the first stray one
        exact ⟨.loop P Q, Cs, Os, by simp [strays, Tree.source]⟩
    · by_cases hc : b = closeByte
      · subst hc
        exact ⟨.nil, P :: Cs, Os, by simp [strays, Tree.source]⟩
      · exact ⟨.byte b ho hc P, Cs, Os, by simp [strays, Tree.source]⟩

/-- The bytes of `code` from `i` on, split. -/
theorem exists_split_at (code : Code) (i : Nat) :
    ∃ (P : Tree) (Cs Os : List Tree),
      TailAt code i (P.source ++ (strays closeByte Cs ++ strays openByte Os)) := by
  obtain ⟨P, Cs, Os, h⟩ := exists_split (code.toList.drop i)
  exact ⟨P, Cs, Os, by rw [TailAt, h, List.append_assoc]⟩

theorem TailAt.cons {code : Code} {i : Nat} {b : UInt8} {rest : Bytes} (hb : code[i]? = some b)
    (h : TailAt code (i + 1) rest) : TailAt code i (b :: rest) := by
  obtain ⟨hi, rfl⟩ := Array.getElem?_eq_some_iff.mp hb
  rw [TailAt, List.drop_eq_getElem_cons (by simpa using hi), h, Array.getElem_toList]

theorem TailAt.strays_cons {code : Code} {i : Nat} {b : UInt8} {P : Tree} {Ps : List Tree}
    {suffix : Bytes} (h : TailAt code i (strays b (P :: Ps) ++ suffix)) :
    TailAt code i (b :: (P.source ++ (strays b Ps ++ suffix))) := by
  simpa [strays] using h

/-! ## Loops that are written in a program -/

/-- A loop is written in the program from position `i` to position `j`. -/
def LoopAt (code : Code) (i j : Nat) : Prop :=
  ∃ body, HasTree code i (.loop body .nil) ∧ j = i + 1 + body.size

theorem HasTree.loopAt {code : Code} {i : Nat} {body rest : Tree}
    (h : HasTree code i (.loop body rest)) : LoopAt code i (i + 1 + body.size) := by
  obtain ⟨suffix, h⟩ := h
  refine ⟨body, ⟨rest.source ++ suffix, ?_⟩, rfl⟩
  simpa [Tree.source] using h

namespace LoopAt

variable {code : Code} {i j k : Nat}

theorem lt (h : LoopAt code i j) : i < j := by
  obtain ⟨body, -, rfl⟩ := h
  omega

theorem getElem?_open (h : LoopAt code i j) : code[i]? = some openByte := by
  obtain ⟨body, ht, -⟩ := h
  exact ht.loop_open

theorem getElem?_close (h : LoopAt code i j) : code[j]? = some closeByte := by
  obtain ⟨body, ht, rfl⟩ := h
  exact ht.loop_close

theorem partnerOf?_open (h : LoopAt code i j) : partnerOf? code i = some j := by
  obtain ⟨body, ht, rfl⟩ := h
  rw [TapeDeck.partnerOf?_open ht.loop_open]
  exact closeOf?_loop ht

theorem partnerOf?_close (h : LoopAt code i j) : partnerOf? code j = some i := by
  obtain ⟨body, ht, rfl⟩ := h
  rw [TapeDeck.partnerOf?_close ht.loop_close]
  exact openOf?_loop ht

theorem close_unique (h : LoopAt code i j) (h' : LoopAt code i k) : j = k :=
  Option.some.inj (h.partnerOf?_open.symm.trans h'.partnerOf?_open)

theorem open_unique (h : LoopAt code i k) (h' : LoopAt code j k) : i = j :=
  Option.some.inj (h.partnerOf?_close.symm.trans h'.partnerOf?_close)

end LoopAt

/-- **A bracket inside a tree belongs to a loop inside the tree.** -/
theorem HasTree.loop_at {code : Code} {k : Nat}
    (hk : code[k]? = some openByte ∨ code[k]? = some closeByte) (P : Tree) :
    ∀ {i : Nat}, HasTree code i P → i ≤ k → k < i + P.size →
      ∃ a b, LoopAt code a b ∧ i ≤ a ∧ b < i + P.size ∧ (k = a ∨ k = b) := by
  induction P with
  | nil =>
    intro i _ hle hlt
    simp only [Tree.size, Tree.source, List.length_nil] at hlt
    omega
  | byte b ho hc rest ih =>
    intro i h hle hlt
    rw [Tree.add_size_byte] at hlt ⊢
    have hne : i ≠ k := by
      rintro rfl
      rcases hk with hk | hk
      · exact getElem?_ne_of_ne h.byte_getElem? ho hk
      · exact getElem?_ne_of_ne h.byte_getElem? hc hk
    obtain ⟨a, b, hloop, ha, hb, hab⟩ := ih h.byte_rest (by omega) hlt
    exact ⟨a, b, hloop, by omega, hb, hab⟩
  | loop body rest ihBody ihRest =>
    intro i h hle hlt
    rw [Tree.add_size_loop] at hlt ⊢
    by_cases hbody : i + 1 ≤ k ∧ k < i + 1 + body.size
    · obtain ⟨a, b, hloop, ha, hb, hab⟩ := ihBody h.loop_body hbody.1 hbody.2
      exact ⟨a, b, hloop, by omega, by omega, hab⟩
    · by_cases hrest : i + 1 + body.size + 1 ≤ k
      · obtain ⟨a, b, hloop, ha, hb, hab⟩ := ihRest h.loop_rest hrest hlt
        exact ⟨a, b, hloop, by omega, hb, hab⟩
      · -- one of the two brackets of the loop itself
        exact ⟨i, i + 1 + body.size, h.loopAt, Nat.le_refl i, by omega, by omega⟩

theorem LoopAt.inside {code : Code} {i j k : Nat} (h : LoopAt code i j) (hik : i < k) (hkj : k < j)
    (hk : code[k]? = some openByte ∨ code[k]? = some closeByte) :
    ∃ a b, LoopAt code a b ∧ i < a ∧ b < j ∧ (k = a ∨ k = b) := by
  obtain ⟨body, ht, rfl⟩ := h
  exact HasTree.loop_at hk body ht.loop_body hik hkj

/-! ## What the scans find -/

section Scans

variable {code : Code} {i j : Nat}

/-- **An opening bracket starts a loop, or nothing behind it closes anything** but what is opened
behind it as well. -/
theorem loopAt_or_strays (ho : code[i]? = some openByte) :
    (∃ j, LoopAt code i j) ∨
      ∃ (P : Tree) (Os : List Tree), TailAt code i (strays openByte (P :: Os) ++ []) := by
  obtain ⟨P, Cs, Os, htail⟩ := exists_split_at code (i + 1)
  cases Cs with
  | nil => exact .inr ⟨P, Os, by simpa [strays] using htail.cons ho⟩
  | cons Q Cs =>
    -- the bracket, the tree and the first stray closing bracket make a loop
    have hloop : HasTree code i (.loop P .nil) :=
      ⟨Q.source ++ (strays closeByte Cs ++ strays openByte Os), by
        simpa [Tree.source, strays] using htail.cons ho⟩
    exact .inl ⟨_, hloop.loopAt⟩

/-- Over stray opening brackets the forward scan runs to the end. -/
theorem findClose_strays :
    ∀ (Os : List Tree) {i : Nat} (d : Nat), TailAt code i (strays openByte Os ++ []) →
      findClose code d i = none
  | [], _, _, h => findClose_end h.getElem?_nil
  | P :: Os, i, d, h => by
    have h := h.strays_cons
    rw [findClose_open h.getElem?_cons, findClose_source P (d + 1) ⟨_, h.tail⟩]
    exact findClose_strays Os (d + 1) h.tail.append

theorem closeOf?_strays {P : Tree} {Os : List Tree}
    (h : TailAt code i (strays openByte (P :: Os) ++ [])) : closeOf? code i = none := by
  have h := h.strays_cons
  rw [closeOf?, findClose_source P 0 ⟨_, h.tail⟩]
  exact findClose_strays Os 0 h.tail.append

/-- **The forward scan finds the end of a loop.** -/
theorem loopAt_of_closeOf? (ho : code[i]? = some openByte) (h : closeOf? code i = some j) :
    LoopAt code i j := by
  rw [← partnerOf?_open ho] at h
  obtain ⟨k, hloop⟩ | ⟨P, Os, htail⟩ := loopAt_or_strays ho
  · obtain rfl := Option.some.inj (hloop.partnerOf?_open.symm.trans h)
    exact hloop
  · rw [partnerOf?_open ho, closeOf?_strays htail] at h
    exact absurd h nofun

/-- What the backward scan finds waits for the place where the scan started. -/
theorem findClose_of_findOpen {d : Nat} (h : findOpen code d j = some i) :
    findClose code 0 (i + 1) = findClose code d j := by
  fun_induction findOpen code d j with
  | case1 => exact absurd h.symm (Option.some_ne_none i)
  | case2 d j hc ih => rw [ih h, findClose_close_succ hc]
  | case3 j hc ho =>
    obtain rfl := Option.some.inj h
    rfl
  | case4 j hc ho d ih => rw [ih h, findClose_open ho]
  | case5 d j hc ho ih =>
    rw [ih h]
    cases hb : code[j]? with
    | none =>
      have hend : code[j + 1]? = none := by
        simp only [Array.getElem?_eq_none_iff] at hb ⊢
        omega
      rw [findClose_end hb, findClose_end hend]
    | some b =>
      refine findClose_plain hb ?_ ?_
      · rintro rfl
        exact ho hb
      · rintro rfl
        exact hc hb

/-- **The backward scan finds the start of a loop.** -/
theorem loopAt_of_openOf? (hc : code[j]? = some closeByte) (h : openOf? code j = some i) :
    LoopAt code i j := by
  refine loopAt_of_closeOf? (getElem?_of_findOpen h) ?_
  rw [closeOf?, findClose_of_findOpen h, findClose_close_zero hc]

/-- **The pairs of a program are its loops**, from either end. -/
theorem partnerOf?_eq_some_iff :
    partnerOf? code i = some j ↔ LoopAt code i j ∨ LoopAt code j i := by
  constructor
  · intro h
    rcases bracket_of_partnerOf? h with ho | hc
    · rw [partnerOf?_open ho] at h
      exact .inl (loopAt_of_closeOf? ho h)
    · rw [partnerOf?_close hc] at h
      exact .inr (loopAt_of_openOf? hc h)
  · rintro (h | h)
    · exact h.partnerOf?_open
    · exact h.partnerOf?_close

/-- Behind stray opening brackets, closing ones belong to loops. -/
theorem loopAt_of_strays (hj : code[j]? = some closeByte) :
    ∀ (Os : List Tree) {i : Nat}, TailAt code i (strays openByte Os ++ []) → i ≤ j →
      ∃ a, i < a ∧ LoopAt code a j
  | [], i, h, hij => by
    have hi := h.getElem?_nil
    have hlt := (Array.getElem?_eq_some_iff.mp hj).1
    simp only [Array.getElem?_eq_none_iff] at hi
    omega
  | P :: Os, i, h, hij => by
    have h := h.strays_cons
    have hne : i ≠ j := by
      rintro rfl
      exact ne_close_of_open h.getElem?_cons hj
    by_cases hlt : j < i + 1 + P.size
    · obtain ⟨a, b, hloop, ha, -, hab⟩ := HasTree.loop_at (.inr hj) P ⟨_, h.tail⟩ (by omega) hlt
      have hjb : j = b := by
        rcases hab with rfl | rfl
        · exact absurd hj (ne_close_of_open hloop.getElem?_open)
        · rfl
      exact ⟨a, by omega, hjb ▸ hloop⟩
    · obtain ⟨a, ha, hloop⟩ := loopAt_of_strays hj Os h.tail.append (Nat.le_of_not_lt hlt)
      exact ⟨a, by omega, hloop⟩

/-- **Behind an opening bracket that is never closed**, every closing bracket ends a loop. -/
theorem loopAt_of_unclosed (ho : code[i]? = some openByte) (hn : partnerOf? code i = none)
    (hij : i < j) (hj : code[j]? = some closeByte) : ∃ a, i < a ∧ LoopAt code a j := by
  obtain ⟨k, hloop⟩ | ⟨P, Os, htail⟩ := loopAt_or_strays ho
  · exact absurd (hloop.partnerOf?_open.symm.trans hn) nofun
  · exact loopAt_of_strays hj (P :: Os) htail (Nat.le_of_lt hij)

end Scans

/-! ## Balanced programs -/

theorem allPaired_source (P : Tree) : AllPaired P.source.toArray := by
  intro k hk
  have hlt : k < P.size := by
    rcases hk with hk | hk
    · simpa [Tree.size] using (Array.getElem?_eq_some_iff.mp hk).1
    · simpa [Tree.size] using (Array.getElem?_eq_some_iff.mp hk).1
  obtain ⟨a, b, hloop, -, -, rfl | rfl⟩ :=
    HasTree.loop_at hk P (hasTree_source P) (Nat.zero_le k) (by omega)
  · rw [hloop.partnerOf?_open]
    exact Option.some_ne_none b
  · rw [hloop.partnerOf?_close]
    exact Option.some_ne_none a

/-- **The grammar.** No bracket is without a partner exactly when the program is the source of a
tree. -/
theorem allPaired_iff_exists_tree (source : Bytes) :
    AllPaired source.toArray ↔ ∃ P : Tree, P.source = source := by
  constructor
  · intro h
    obtain ⟨P, Cs, Os, hsplit⟩ := exists_split_at source.toArray 0
    cases Cs with
    | cons Q Cs =>
      -- before the first stray closing bracket there is only a tree
      have hclose := hsplit.append.strays_cons.getElem?_cons
      have hnone : openOf? source.toArray (0 + P.size) = none := by
        rw [openOf?, findOpen_source P 0 ⟨_, hsplit⟩, findOpen]
      exact absurd ((partnerOf?_close hclose).trans hnone) (h _ (.inr hclose))
    | nil =>
      cases Os with
      | cons Q Os =>
        have hstrays : TailAt source.toArray (0 + P.size) (strays openByte (Q :: Os) ++ []) := by
          simpa [strays, Tree.size] using hsplit.append
        have hopen := hstrays.strays_cons.getElem?_cons
        exact absurd ((partnerOf?_open hopen).trans (closeOf?_strays hstrays)) (h _ (.inl hopen))
      | nil => exact ⟨P, by simpa [TailAt, strays] using hsplit.symm⟩
  · rintro ⟨P, rfl⟩
    exact allPaired_source P

/-- The grammar is unambiguous: a program is the source of one tree at most. -/
theorem Tree.source_injective : Function.Injective Tree.source := by
  intro P Q h
  induction P generalizing Q with
  | nil =>
    cases Q with
    | nil => rfl
    | byte => simp [source] at h
    | loop => simp [source] at h
  | byte b ho hc rest ih =>
    cases Q with
    | nil => simp [source] at h
    | byte =>
      obtain ⟨rfl, hrest⟩ := List.cons.inj h
      rw [ih hrest]
    | loop => exact absurd (List.cons.inj h).1 ho
  | loop body rest ihBody ihRest =>
    cases Q with
    | nil => simp [source] at h
    | byte _ ho => exact absurd (List.cons.inj h).1.symm ho
    | loop body' rest' =>
      -- both bodies end where the scan from the first bracket does
      have hscan := closeOf?_loop (hasTree_source (.loop body rest))
      rw [h, closeOf?_loop (hasTree_source (.loop body' rest'))] at hscan
      have hsize : body.source.length = body'.source.length := by
        have := Option.some.inj hscan
        simp only [size] at this
        omega
      obtain ⟨hbody, hrest⟩ := List.append_inj (List.cons.inj h).2 hsize
      rw [ihBody hbody, ihRest (List.cons.inj hrest).2]

/-! ## Listings -/

/-- What makes entries the canonical matching of a program. -/
structure CanonicalMatching (source : Bytes) (entries : List Entry) : Prop where
  /-- The entries are the commands of the program, each with its position. -/
  commands : ∀ i b, (∃ e ∈ entries, e.index = i ∧ e.command = b) ↔
    source[i]? = some b ∧ isCommand b = true
  /-- They are in order. -/
  ascending : entries.Pairwise fun e f => e.index < f.index
  /-- Partners are mutual: an opening bracket and a closing one behind it. -/
  pairs : ∀ e ∈ entries, ∀ j, e.partner = some j →
    ∃ f ∈ entries, f.index = j ∧ f.partner = some e.index ∧
      ((e.index < j ∧ e.command = openByte ∧ f.command = closeByte) ∨
        (j < e.index ∧ e.command = closeByte ∧ f.command = openByte))
  /-- Only brackets have partners. -/
  plain : ∀ e ∈ entries, e.command ≠ openByte → e.command ≠ closeByte → e.partner = none
  /-- Of two pairs, one lies behind the other or inside it. -/
  nested : ∀ e ∈ entries, ∀ f ∈ entries, ∀ j l, e.partner = some j → f.partner = some l →
    e.index < j → f.index < l → e.index < f.index → j < f.index ∨ l < j
  /-- Between the two brackets of a pair, no bracket is without a partner. -/
  filled : ∀ e ∈ entries, ∀ j, e.partner = some j → ∀ u ∈ entries,
    u.command = openByte ∨ u.command = closeByte → e.index < u.index → u.index < j →
      u.partner ≠ none
  /-- Closing brackets without a partner come before opening ones without a partner. -/
  unmatched : ∀ e ∈ entries, ∀ f ∈ entries, e.command = closeByte → e.partner = none →
    f.command = openByte → f.partner = none → e.index < f.index
  /-- No bracket is without a partner exactly when the program is the source of a tree. -/
  balanced : (∀ e ∈ entries, e.command = openByte ∨ e.command = closeByte → e.partner ≠ none) ↔
    ∃ P : Tree, P.source = source

theorem pairwise_listingFrom (table : PartnerTable) :
    ∀ (bs : Bytes) (i : Nat), (listingFrom table bs i).Pairwise (fun e f => e.index < f.index) ∧
      ∀ e ∈ listingFrom table bs i, i ≤ e.index
  | [], _ => ⟨.nil, fun _ he => absurd he List.not_mem_nil⟩
  | b :: rest, i => by
    obtain ⟨hrest, hle⟩ := pairwise_listingFrom table rest (i + 1)
    unfold listingFrom
    split_ifs with hb
    · refine ⟨List.pairwise_cons.mpr ⟨hle, hrest⟩, ?_⟩
      intro e he
      rcases List.mem_cons.mp he with rfl | he
      · exact Nat.le_refl i
      · exact Nat.le_of_succ_le (hle e he)
    · exact ⟨hrest, fun e he => Nat.le_of_succ_le (hle e he)⟩

section Listing

variable {source : Bytes} {e : Entry}

theorem getElem?_of_mem_listing (he : e ∈ listing source) :
    source.toArray[e.index]? = some e.command := by
  rw [List.getElem?_toArray]
  exact ((mem_listing_iff source e).mp he).1

theorem partnerOf?_of_mem_listing (he : e ∈ listing source) :
    partnerOf? source.toArray e.index = e.partner :=
  ((mem_listing_iff source e).mp he).2.2.symm

/-- A bracket of the program is in the listing. -/
theorem mem_listing_of_bracket {k : Nat} {b : UInt8} (hk : source.toArray[k]? = some b)
    (hb : b = openByte ∨ b = closeByte) :
    ⟨k, b, partnerOf? source.toArray k⟩ ∈ listing source := by
  rw [List.getElem?_toArray] at hk
  refine (mem_listing_at_iff hk ?_ _).mpr rfl
  rcases hb with rfl | rfl <;> decide

/-- An entry with a partner behind it starts a loop. -/
theorem loopAt_of_mem_listing {j : Nat} (he : e ∈ listing source) (hj : e.partner = some j)
    (hlt : e.index < j) : LoopAt source.toArray e.index j := by
  rcases partnerOf?_eq_some_iff.mp ((partnerOf?_of_mem_listing he).trans hj) with h | h
  · exact h
  · exact absurd h.lt (Nat.lt_asymm hlt)

end Listing

theorem canonicalMatching_listing (source : Bytes) :
    CanonicalMatching source (listing source) where
  commands i b := by
    constructor
    · rintro ⟨e, he, rfl, rfl⟩
      obtain ⟨hb, hc, -⟩ := (mem_listing_iff source e).mp he
      exact ⟨hb, hc⟩
    · rintro ⟨hb, hc⟩
      exact ⟨_, (mem_listing_at_iff hb hc _).mpr rfl, rfl, rfl⟩
  ascending := (pairwise_listingFrom (partners source) source 0).1
  pairs e he j hj := by
    have hcommand := getElem?_of_mem_listing he
    rcases partnerOf?_eq_some_iff.mp ((partnerOf?_of_mem_listing he).trans hj) with h | h
    · refine ⟨_, mem_listing_of_bracket h.getElem?_close (.inr rfl), rfl, h.partnerOf?_close, ?_⟩
      exact .inl ⟨h.lt, Option.some.inj (hcommand.symm.trans h.getElem?_open), rfl⟩
    · refine ⟨_, mem_listing_of_bracket h.getElem?_open (.inl rfl), rfl, h.partnerOf?_open, ?_⟩
      exact .inr ⟨h.lt, Option.some.inj (hcommand.symm.trans h.getElem?_close), rfl⟩
  plain e he ho hc := by
    have hcommand := getElem?_of_mem_listing he
    rw [← partnerOf?_of_mem_listing he]
    exact partnerOf?_plain (getElem?_ne_of_ne hcommand ho) (getElem?_ne_of_ne hcommand hc)
  nested e he f hf j l hj hl hej hfl hef := by
    have hloop := loopAt_of_mem_listing he hj hej
    have hloop' := loopAt_of_mem_listing hf hl hfl
    by_contra hn
    obtain ⟨hjf, hlj⟩ := not_or.mp hn
    have hne : f.index ≠ j := by
      rintro rfl
      exact ne_close_of_open hloop'.getElem?_open hloop.getElem?_close
    -- the second pair starts inside the first, so it is a loop inside it
    obtain ⟨a, b, hab, -, hb, rfl | hfb⟩ :=
      hloop.inside hef (by omega) (.inl hloop'.getElem?_open)
    · obtain rfl := hab.close_unique hloop'
      exact hlj hb
    · rw [hfb] at hloop'
      exact ne_close_of_open hloop'.getElem?_open hab.getElem?_close
  filled e he j hj u hu hbracket heu huj := by
    have hloop := loopAt_of_mem_listing he hj (Nat.lt_trans heu huj)
    have hu' := getElem?_of_mem_listing hu
    rw [← partnerOf?_of_mem_listing hu]
    obtain ⟨a, b, hab, -, -, h | h⟩ := hloop.inside heu huj (by
      rw [hu']
      exact hbracket.imp (congrArg some) (congrArg some))
    · rw [h, hab.partnerOf?_open]
      exact nofun
    · rw [h, hab.partnerOf?_close]
      exact nofun
  unmatched e he f hf hc hnone ho hnone' := by
    have hclose := getElem?_of_mem_listing he
    have hopen := getElem?_of_mem_listing hf
    rw [hc] at hclose
    rw [ho] at hopen
    rw [← partnerOf?_of_mem_listing he] at hnone
    rw [← partnerOf?_of_mem_listing hf] at hnone'
    by_contra hn
    have hne : f.index ≠ e.index := by
      intro h
      rw [h] at hopen
      exact ne_close_of_open hopen hclose
    obtain ⟨a, -, hloop⟩ := loopAt_of_unclosed hopen hnone' (by omega) hclose
    exact absurd (hloop.partnerOf?_close.symm.trans hnone) nofun
  balanced := by
    rw [listing_paired_iff_balanced, ← all_paired_iff_balanced]
    exact allPaired_iff_exists_tree source

/-! ## No other matching is canonical -/

namespace CanonicalMatching

variable {source : Bytes} {entries : List Entry}

theorem index_inj (h : CanonicalMatching source entries) {e f : Entry} (he : e ∈ entries)
    (hf : f ∈ entries) (hindex : e.index = f.index) : e = f := by
  have hnodup : (entries.map Entry.index).Nodup := by
    rw [List.Nodup, List.pairwise_map]
    exact h.ascending.imp Nat.ne_of_lt
  exact List.inj_on_of_nodup_map hnodup he hf hindex

theorem getElem? (h : CanonicalMatching source entries) {e : Entry} (he : e ∈ entries) :
    source.toArray[e.index]? = some e.command := by
  rw [List.getElem?_toArray]
  exact ((h.commands e.index e.command).mp ⟨e, he, rfl, rfl⟩).1

theorem exists_entry (h : CanonicalMatching source entries) {k : Nat} {b : UInt8}
    (hk : source.toArray[k]? = some b) (hb : b = openByte ∨ b = closeByte) :
    ∃ e ∈ entries, e.index = k ∧ e.command = b := by
  rw [List.getElem?_toArray] at hk
  refine (h.commands k b).mpr ⟨hk, ?_⟩
  rcases hb with rfl | rfl <;> decide

/-- The pair of an opening bracket, as a pair of entries. -/
theorem exists_close (h : CanonicalMatching source entries) {e : Entry} {j : Nat}
    (he : e ∈ entries) (ho : e.command = openByte) (hj : e.partner = some j) :
    e.index < j ∧ ∃ f ∈ entries, f.index = j ∧ f.command = closeByte ∧
      f.partner = some e.index := by
  obtain ⟨f, hf, hindex, hpartner, ⟨hlt, -, hc⟩ | ⟨-, hc, -⟩⟩ := h.pairs e he j hj
  · exact ⟨hlt, f, hf, hindex, hc, hpartner⟩
  · exact absurd (ho.symm.trans hc) openByte_ne_closeByte

/-- The pair of a closing bracket, as a pair of entries. -/
theorem exists_open (h : CanonicalMatching source entries) {e : Entry} {j : Nat}
    (he : e ∈ entries) (hc : e.command = closeByte) (hj : e.partner = some j) :
    j < e.index ∧ ∃ f ∈ entries, f.index = j ∧ f.command = openByte ∧
      f.partner = some e.index := by
  obtain ⟨f, hf, hindex, hpartner, ⟨-, ho, -⟩ | ⟨hlt, -, ho⟩⟩ := h.pairs e he j hj
  · exact absurd (ho.symm.trans hc) openByte_ne_closeByte
  · exact ⟨hlt, f, hf, hindex, ho, hpartner⟩

section Inner

variable {e : Entry} {j : Nat} (h : CanonicalMatching source entries) (he : e ∈ entries)
  (hj : e.partner = some j)
  (inner : ∀ u ∈ entries, ∀ l, u.command = openByte → u.partner = some l → e.index < u.index →
    l < j → LoopAt source.toArray u.index l)

include h he hj inner

/-- If the pairs inside a pair are loops, no loop that starts inside it ends at its end. -/
theorem not_loopAt_end (ho : e.command = openByte) {a : Nat} (ha : e.index < a) :
    ¬ LoopAt source.toArray a j := by
  intro hloop
  obtain ⟨u, hu, rfl, huo⟩ := h.exists_entry hloop.getElem?_open (.inl rfl)
  obtain ⟨l, hl⟩ := Option.ne_none_iff_exists'.mp
    (h.filled e he j hj u hu (.inl huo) ha hloop.lt)
  have hej := (h.exists_close he ho hj).1
  have hul := (h.exists_close hu huo hl).1
  rcases h.nested e he u hu j l hj hl hej hul ha with hju | hlj
  · exact Nat.lt_asymm hju hloop.lt
  · have := (inner u hu l huo hl ha hlj).close_unique hloop
    omega

/-- If the pairs inside a pair are loops, no loop that starts at its start ends inside it. -/
theorem not_loopAt_start {k : Nat} (hk : k < j) : ¬ LoopAt source.toArray e.index k := by
  intro hloop
  have hek := hloop.lt
  obtain ⟨u, hu, rfl, huc⟩ := h.exists_entry hloop.getElem?_close (.inr rfl)
  obtain ⟨l, hl⟩ := Option.ne_none_iff_exists'.mp
    (h.filled e he j hj u hu (.inr huc) hek hk)
  obtain ⟨hvu, v, hv, rfl, hvo, hvp⟩ := h.exists_open hu huc hl
  have hev : e.index < v.index := by
    rcases Nat.lt_trichotomy e.index v.index with hev | hev | hev
    · exact hev
    · obtain rfl := h.index_inj he hv hev
      have := Option.some.inj (hj.symm.trans hvp)
      omega
    · rcases h.nested v hv e he u.index j hvp hj hvu (by omega) hev with h' | h'
      · omega
      · omega
  have := (inner v hv u.index hvo hvp hev hk).open_unique hloop
  omega

/-- If the pairs inside a pair are loops, it is one itself. -/
theorem loopAt_of_inner (ho : e.command = openByte) : LoopAt source.toArray e.index j := by
  obtain ⟨hej, f, hf, rfl, hc, -⟩ := h.exists_close he ho hj
  have hopen : source.toArray[e.index]? = some openByte := ho ▸ h.getElem? he
  have hclose : source.toArray[f.index]? = some closeByte := hc ▸ h.getElem? hf
  obtain ⟨k, hloop⟩ | ⟨P, Os, htail⟩ := loopAt_or_strays hopen
  · rcases Nat.lt_trichotomy k f.index with hk | rfl | hk
    · exact absurd hloop (h.not_loopAt_start he hj inner hk)
    · exact hloop
    · obtain ⟨a, b, hab, ha, -, hfa | hfb⟩ := hloop.inside hej hk (.inr hclose)
      · rw [hfa] at hclose
        exact absurd hclose (ne_close_of_open hab.getElem?_open)
      · exact absurd (hfb ▸ hab) (h.not_loopAt_end he hj inner ho ha)
  · obtain ⟨a, ha, hloop⟩ := loopAt_of_strays hclose (P :: Os) htail (Nat.le_of_lt hej)
    exact absurd hloop (h.not_loopAt_end he hj inner ho ha)

end Inner

/-- **A pair of a canonical matching is a loop.** -/
theorem loopAt (h : CanonicalMatching source entries) {e : Entry} {j : Nat} (he : e ∈ entries)
    (ho : e.command = openByte) (hj : e.partner = some j) :
    LoopAt source.toArray e.index j := by
  -- by the distance of the two brackets
  induction hn : j - e.index using Nat.strongRecOn generalizing e j with
  | ind n ih =>
    refine h.loopAt_of_inner he hj (fun u hu l huo hul heu hlj => ?_) ho
    have hlt := (h.exists_close hu huo hul).1
    exact ih (l - u.index) (by omega) hu huo hul rfl

/-- **The partners of a canonical matching are those that the scans find.** -/
theorem partner_eq (h : CanonicalMatching source entries) {e : Entry} (he : e ∈ entries) :
    e.partner = partnerOf? source.toArray e.index := by
  cases hp : e.partner with
  | some j =>
    obtain ⟨f, hf, rfl, hfp, ⟨-, ho, -⟩ | ⟨-, -, ho⟩⟩ := h.pairs e he j hp
    · exact (h.loopAt he ho hp).partnerOf?_open.symm
    · exact (h.loopAt hf ho hfp).partnerOf?_close.symm
  | none =>
    cases hk : partnerOf? source.toArray e.index with
    | none => rfl
    | some k =>
      exfalso
      rcases partnerOf?_eq_some_iff.mp hk with hloop | hloop
      · have ho := Option.some.inj ((h.getElem? he).symm.trans hloop.getElem?_open)
        obtain ⟨u, hu, rfl, huc⟩ := h.exists_entry hloop.getElem?_close (.inr rfl)
        cases hup : u.partner with
        | none => exact Nat.lt_asymm hloop.lt (h.unmatched u hu e he huc hup ho hp)
        | some l =>
          obtain ⟨-, f, hf, rfl, hfo, hfp⟩ := h.exists_open hu huc hup
          obtain rfl := h.index_inj hf he ((h.loopAt hf hfo hfp).open_unique hloop)
          exact absurd (hp.symm.trans hfp) nofun
      · have hc := Option.some.inj ((h.getElem? he).symm.trans hloop.getElem?_close)
        obtain ⟨u, hu, rfl, huo⟩ := h.exists_entry hloop.getElem?_open (.inl rfl)
        cases hup : u.partner with
        | none => exact Nat.lt_asymm hloop.lt (h.unmatched e he u hu hc hp huo hup)
        | some l =>
          obtain ⟨-, f, hf, rfl, -, hfp⟩ := h.exists_close hu huo hup
          obtain rfl := h.index_inj hf he ((h.loopAt hu huo hup).close_unique hloop)
          exact absurd (hp.symm.trans hfp) nofun

theorem mem_iff (h : CanonicalMatching source entries) (e : Entry) :
    e ∈ entries ↔ e ∈ listing source := by
  rw [mem_listing_iff]
  constructor
  · intro he
    obtain ⟨hb, hc⟩ := (h.commands e.index e.command).mp ⟨e, he, rfl, rfl⟩
    exact ⟨hb, hc, h.partner_eq he⟩
  · rintro ⟨hb, hc, hp⟩
    obtain ⟨f, hf, hindex, hcommand⟩ := (h.commands e.index e.command).mpr ⟨hb, hc⟩
    have hpartner : f.partner = e.partner := by rw [h.partner_eq hf, hindex, hp]
    have hfe : f = e := by
      cases f
      cases e
      simp_all
    exact hfe ▸ hf

end CanonicalMatching

/-- **Listings are canonical.** The entries of a listing are the commands of the program in order;
bracket partners are mutual, an opening bracket before a closing one; pairs are nested or disjoint
and have no unmatched bracket inside; unmatched closing brackets come before unmatched opening ones;
and nothing is unmatched exactly when the program is the source of a tree. No other list of entries
has these properties. -/
theorem listing_canonical (source : Bytes) :
    CanonicalMatching source (listing source) ∧
      ∀ entries, CanonicalMatching source entries → entries = listing source := by
  refine ⟨canonicalMatching_listing source, fun entries h => ?_⟩
  have : Std.Irrefl fun e f : Entry => e.index < f.index := ⟨fun e => Nat.lt_irrefl e.index⟩
  have : Std.Antisymm fun e f : Entry => e.index < f.index :=
    ⟨fun _ _ hef hfe => absurd hfe (Nat.lt_asymm hef)⟩
  exact h.ascending.eq_of_mem_iff (canonicalMatching_listing source).ascending h.mem_iff

end TapeDeck
