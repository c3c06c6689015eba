import KubeClipper.L1Go.Builtins
/-!
# `regexp`: leftmost-first matching

Go's `regexp` (RE2 syntax) reports, among the matches that start earliest in
the text, the one a backtracking matcher would find first ("leftmost-first").
The patterns the code compiles use literals, `.*?` (any character but a
newline, as few as possible) and `\s+`, `\S+` (one or more characters of a
class, as many as possible). A pattern is the list of these nodes;
`matchNodes` is the backtracking matcher, written with continuations: each
node tries its choices in order of preference and hands the rest of the text
to the nodes after it. The compiled pattern is written as its node list; the
docstring of each gives the source text.

`findAllString` is `FindAllString(s, -1)` for patterns that begin with a
non-empty literal, whose matches are never empty: each search starts where the
previous match ended.

Results:
* `matchNodes_suffix`: a match leaves a suffix of the text.
* `matchNodes_sound`, `matchNodes_complete`: the matcher finds a match exactly
  when the text begins with a word of the pattern's language `Matches`.
* `findLeftmost_spec`: the match reported starts at the first position where
  the pattern matches; `findLeftmost_append`: positions where nothing
  matches are passed over.
* `Matches.extend_lit_lazyAny`: a pattern `l.*?…` that matches at a later `l`
  also matches at an earlier one, when no newline lies in between.
* `lazyAny_append`, `greedyStar_run`: what the matcher returns, for the lazy
  `.*?` at the first position where the rest matches and for a greedy run
  that ends where the class ends; with `matchNodes_lit_append` they compute a
  match step by step.
-/
namespace KubeClipper.L1.Go.Regexp

/-- A node of a pattern. -/
inductive Node
  /-- a literal string -/
  | lit (s : List Char)
  /-- `.*?` -/
  | lazyAny
  /-- `x+` for a character class `x` -/
  | plus (cls : Char → Bool)

/-- `\s`: RE2's Perl class `[\t\n\f\r ]`. -/
def perlSpace (c : Char) : Bool :=
  c.toNat = 9 || c.toNat = 10 || c.toNat = 12 || c.toNat = 13 || c.toNat = 32

/-- `.*?`: the rest of the pattern here first, then one character further;
`.` does not match a newline. -/
def lazyAny (k : List Char → Option (List Char)) : List Char → Option (List Char)
  | [] => k []
  | c :: s => k (c :: s) <|> if c = '\n' then none else lazyAny k s

/-- `x*`, greedy: as many characters of the class as possible first. -/
def greedyStar (cls : Char → Bool) (k : List Char → Option (List Char)) : List Char → Option (List Char)
  | [] => k []
  | c :: s => if cls c then greedyStar cls k s <|> k (c :: s) else k (c :: s)

/-- `x+`, greedy. -/
def greedyPlus (cls : Char → Bool) (k : List Char → Option (List Char)) : List Char → Option (List Char)
  | [] => none
  | c :: s => if cls c then greedyStar cls k s else none

/-- The first match of the nodes at the start of the text, in backtracking
order: what is left of the text after it. -/
def matchNodes : List Node → List Char → Option (List Char)
  | [], s => some s
  | .lit l :: rest, s => if l.isPrefixOf s then matchNodes rest (s.drop l.length) else none
  | .lazyAny :: rest, s => lazyAny (matchNodes rest) s
  | .plus cls :: rest, s => greedyPlus cls (matchNodes rest) s

/-- The leftmost match: the matched text and the text after it. -/
def findLeftmost (re : List Node) : List Char → Option (List Char × List Char)
  | [] => (matchNodes re []).map fun rest => ([], rest)
  | c :: s =>
    match matchNodes re (c :: s) with
    | some rest => some ((c :: s).take ((c :: s).length - rest.length), rest)
    | none => findLeftmost re s

/-- The successive matches, with fuel for the number of searches. -/
def findAllFuel (re : List Node) : Nat → List Char → List (List Char)
  | 0, _ => []
  | n + 1, s =>
    match findLeftmost re s with
    | none => []
    | some (m, rest) => m :: findAllFuel re n rest

/-- `re.FindAllString(s, -1)` -/
def findAllString (re : List Node) (s : String) : List String :=
  (findAllFuel re (s.length + 1) s.data).map String.mk

/-! ## Matches leave suffixes -/

theorem orElse_eq_some {x y : Option (List Char)} {a : List Char} :
    (x <|> y) = some a ↔ x = some a ∨ x = none ∧ y = some a := by
  cases x <;> simp

section Suffix

variable {k : List Char → Option (List Char)} (hk : ∀ s r, k s = some r → r <:+ s)
include hk

theorem lazyAny_suffix : ∀ {s r : List Char}, lazyAny k s = some r → r <:+ s
  | [], _, h => hk _ _ h
  | c :: s, r, h => by
    rw [lazyAny] at h
    rcases orElse_eq_some.1 h with h | ⟨-, h⟩
    · exact hk _ _ h
    · split_ifs at h
      exact (lazyAny_suffix h).trans (List.suffix_cons c s)

theorem greedyStar_suffix (cls : Char → Bool) : ∀ {s r : List Char}, greedyStar cls k s = some r → r <:+ s
  | [], _, h => hk _ _ h
  | c :: s, r, h => by
    rw [greedyStar] at h
    split_ifs at h
    · rcases orElse_eq_some.1 h with h | ⟨-, h⟩
      · exact (greedyStar_suffix cls h).trans (List.suffix_cons c s)
      · exact hk _ _ h
    · exact hk _ _ h

theorem greedyPlus_suffix (cls : Char → Bool) {s r : List Char} (h : greedyPlus cls k s = some r) :
    r <:+ s := by
  cases s with
  | nil => cases h
  | cons c s =>
    rw [greedyPlus] at h
    split_ifs at h
    exact (greedyStar_suffix hk cls h).trans (List.suffix_cons c s)

end Suffix

theorem matchNodes_suffix : ∀ (re : List Node) {s r : List Char}, matchNodes re s = some r → r <:+ s
  | [], _, _, h => by cases h; exact List.suffix_refl _
  | .lit l :: rest, s, r, h => by
    rw [matchNodes] at h
    split_ifs at h
    exact (matchNodes_suffix rest h).trans (List.drop_suffix _ _)
  | .lazyAny :: rest, _, _, h => lazyAny_suffix (fun _ _ => matchNodes_suffix rest) h
  | .plus cls :: rest, _, _, h => greedyPlus_suffix (fun _ _ => matchNodes_suffix rest) cls h

/-! ## The language of a pattern -/

/-- The texts a pattern matches as a whole. -/
inductive Matches : List Node → List Char → Prop
  | nil : Matches [] []
  | lit {l m : List Char} {rest : List Node} : Matches rest m → Matches (.lit l :: rest) (l ++ m)
  | lazyAny {u m : List Char} {rest : List Node} :
      '\n' ∉ u → Matches rest m → Matches (.lazyAny :: rest) (u ++ m)
  | plus {cls : Char → Bool} {u m : List Char} {rest : List Node} :
      u ≠ [] → (∀ c ∈ u, cls c) → Matches rest m → Matches (.plus cls :: rest) (u ++ m)

section Sound

variable {k : List Char → Option (List Char)} {P : List Char → Prop}
  (hk : ∀ s r, k s = some r → ∃ m, s = m ++ r ∧ P m)
include hk

theorem lazyAny_sound : ∀ {s r : List Char}, lazyAny k s = some r →
    ∃ u m, s = u ++ m ++ r ∧ '\n' ∉ u ∧ P m
  | [], _, h => by
    obtain ⟨m, hs, hm⟩ := hk _ _ h
    exact ⟨[], m, by simpa using hs, List.not_mem_nil _, hm⟩
  | c :: s, r, h => by
    rw [lazyAny] at h
    rcases orElse_eq_some.1 h with h | ⟨-, h⟩
    · obtain ⟨m, hs, hm⟩ := hk _ _ h
      exact ⟨[], m, by simpa using hs, List.not_mem_nil _, hm⟩
    · split_ifs at h with hc
      obtain ⟨u, m, rfl, hu, hm⟩ := lazyAny_sound h
      exact ⟨c :: u, m, rfl, by simp [hu, Ne.symm hc], hm⟩

theorem greedyStar_sound (cls : Char → Bool) : ∀ {s r : List Char}, greedyStar cls k s = some r →
    ∃ u m, s = u ++ m ++ r ∧ (∀ c ∈ u, cls c) ∧ P m
  | [], _, h => by
    obtain ⟨m, hs, hm⟩ := hk _ _ h
    exact ⟨[], m, by simpa using hs, by simp, hm⟩
  | c :: s, r, h => by
    rw [greedyStar] at h
    split_ifs at h with hc
    · rcases orElse_eq_some.1 h with h | ⟨-, h⟩
      · obtain ⟨u, m, rfl, hu, hm⟩ := greedyStar_sound cls h
        exact ⟨c :: u, m, rfl, List.forall_mem_cons.2 ⟨hc, hu⟩, hm⟩
      · obtain ⟨m, hs, hm⟩ := hk _ _ h
        exact ⟨[], m, by simpa using hs, by simp, hm⟩
    · obtain ⟨m, hs, hm⟩ := hk _ _ h
      exact ⟨[], m, by simpa using hs, by simp, hm⟩

end Sound

/-- What the matcher reports is a match: the text it consumed is in the language. -/
theorem matchNodes_sound : ∀ (re : List Node) {s r : List Char}, matchNodes re s = some r →
    ∃ m, s = m ++ r ∧ Matches re m
  | [], s, r, h => by
    cases h
    exact ⟨[], rfl, .nil⟩
  | .lit l :: rest, s, r, h => by
    rw [matchNodes] at h
    split_ifs at h with hl
    obtain ⟨m, hs, hm⟩ := matchNodes_sound rest h
    refine ⟨l ++ m, ?_, .lit hm⟩
    obtain ⟨t, rfl⟩ := List.isPrefixOf_iff_prefix.1 hl
    simpa using hs
  | .lazyAny :: rest, s, r, h => by
    obtain ⟨u, m, rfl, hu, hm⟩ := lazyAny_sound (fun _ _ => matchNodes_sound rest) h
    exact ⟨u ++ m, by simp, .lazyAny hu hm⟩
  | .plus cls :: rest, s, r, h => by
    cases s with
    | nil => cases h
    | cons c s =>
      rw [matchNodes, greedyPlus] at h
      split_ifs at h with hc
      obtain ⟨u, m, rfl, hu, hm⟩ := greedyStar_sound (fun _ _ => matchNodes_sound rest) cls h
      exact ⟨c :: u ++ m, by simp, .plus (List.cons_ne_nil _ _) (List.forall_mem_cons.2 ⟨hc, hu⟩) hm⟩

theorem orElse_ne_none_left {x y : Option (List Char)} (h : x ≠ none) : (x <|> y) ≠ none := by
  cases x <;> simp_all

theorem orElse_ne_none_right {x y : Option (List Char)} (h : y ≠ none) : (x <|> y) ≠ none := by
  cases x <;> simp_all

section Complete

variable {k : List Char → Option (List Char)}

theorem lazyAny_ne_none {s : List Char} (h : k s ≠ none) : lazyAny k s ≠ none := by
  cases s with
  | nil => exact h
  | cons c s => exact orElse_ne_none_left h

theorem greedyStar_ne_none (cls : Char → Bool) {s : List Char} (h : k s ≠ none) :
    greedyStar cls k s ≠ none := by
  cases s with
  | nil => exact h
  | cons c s =>
    rw [greedyStar]
    split_ifs
    · exact orElse_ne_none_right h
    · exact h

variable {m : List Char} (hk : ∀ r, k (m ++ r) ≠ none)
include hk

theorem lazyAny_complete : ∀ {u : List Char}, '\n' ∉ u → ∀ r, lazyAny k (u ++ m ++ r) ≠ none
  | [], _, r => lazyAny_ne_none (hk r)
  | c :: u, hu, r => by
    rw [List.cons_append, List.cons_append, lazyAny]
    refine orElse_ne_none_right ?_
    rw [if_neg (by rintro rfl; exact hu (List.mem_cons_self _ _))]
    exact lazyAny_complete (fun h => hu (List.mem_cons_of_mem _ h)) r

theorem greedyStar_complete (cls : Char → Bool) : ∀ {u : List Char}, (∀ c ∈ u, cls c) →
    ∀ r, greedyStar cls k (u ++ m ++ r) ≠ none
  | [], _, r => greedyStar_ne_none cls (hk r)
  | c :: u, hu, r => by
    rw [List.cons_append, List.cons_append, greedyStar, if_pos (hu c (List.mem_cons_self _ _))]
    exact orElse_ne_none_left (greedyStar_complete cls (fun x hx => hu x (List.mem_cons_of_mem _ hx)) r)

end Complete

/-- Backtracking explores every choice: a text that begins with a match of the
pattern is matched. -/
theorem matchNodes_complete {re : List Node} {m : List Char} (h : Matches re m) :
    ∀ r, matchNodes re (m ++ r) ≠ none := by
  induction h with
  | nil => intro r; simp [matchNodes]
  | @lit l m rest _ ih =>
    intro r
    rw [matchNodes, if_pos (List.isPrefixOf_iff_prefix.2 (by simp)), List.append_assoc, List.drop_left]
    exact ih r
  | lazyAny hu _ ih => exact lazyAny_complete ih hu
  | @plus cls u m rest hu hcls _ ih =>
    intro r
    obtain ⟨c, u, rfl⟩ := List.exists_cons_of_ne_nil hu
    rw [List.cons_append, List.cons_append, matchNodes, greedyPlus, if_pos (hcls c (List.mem_cons_self _ _))]
    exact greedyStar_complete ih cls (fun x hx => hcls x (List.mem_cons_of_mem _ hx)) r

/-- A pattern `l.*?…` that matches at a later `l` also matches at an earlier
one: the `.*?` runs over the text between them and over the later `l`. -/
theorem Matches.extend_lit_lazyAny {l y m : List Char} {rest : List Node} (hl : '\n' ∉ l)
    (hy : '\n' ∉ y) (h : Matches (.lit l :: .lazyAny :: rest) m) :
    Matches (.lit l :: .lazyAny :: rest) (l ++ y ++ m) := by
  cases h with
  | lit h =>
    cases h with
    | @lazyAny u m _ hu hm =>
      have hyu : '\n' ∉ y ++ l ++ u := by simp [hy, hl, hu]
      simpa using Matches.lit (Matches.lazyAny hyu hm)

theorem Matches.lit_prefix {l m : List Char} {rest : List Node} (h : Matches (.lit l :: rest) m) :
    l <+: m := by
  cases h with
  | lit _ => exact List.prefix_append _ _

/-! ## The leftmost match -/

theorem take_append_suffix {r s : List Char} (h : r <:+ s) : s.take (s.length - r.length) ++ r = s := by
  obtain ⟨t, rfl⟩ := h
  simp

/-- `findLeftmost` reports the match the matcher finds at the first position
where it finds one. -/
theorem findLeftmost_spec (re : List Node) : ∀ {s m r : List Char}, findLeftmost re s = some (m, r) →
    ∃ p, s = p ++ m ++ r ∧ matchNodes re (m ++ r) = some r ∧
      ∀ p' v, s = p' ++ v → p'.length < p.length → matchNodes re v = none
  | [], m, r, h => by
    simp only [findLeftmost, Option.map_eq_some', Prod.mk.injEq] at h
    obtain ⟨r, h, rfl, rfl⟩ := h
    obtain rfl : r = [] := List.eq_nil_of_suffix_nil (matchNodes_suffix re h)
    exact ⟨[], rfl, h, fun _ _ _ hp => absurd hp (Nat.not_lt_zero _)⟩
  | c :: s, m, r, h => by
    rw [findLeftmost] at h
    cases hc : matchNodes re (c :: s) with
    | some rest =>
      rw [hc] at h
      cases h
      rw [take_append_suffix (matchNodes_suffix re hc)]
      exact ⟨[], (take_append_suffix (matchNodes_suffix re hc)).symm, hc,
        fun _ _ _ hp => absurd hp (Nat.not_lt_zero _)⟩
    | none =>
      rw [hc] at h
      obtain ⟨p, rfl, hm, hfirst⟩ := findLeftmost_spec re h
      refine ⟨c :: p, rfl, hm, fun p' v e hp => ?_⟩
      cases p' with
      | nil => exact (List.nil_append v ▸ e) ▸ hc
      | cons c' p' =>
        obtain ⟨-, e⟩ := List.cons.inj e
        exact hfirst p' v (by simpa using e) (by simpa using hp)

theorem findLeftmost_of_matchNodes {re : List Node} {s r : List Char} (h : matchNodes re s = some r) :
    findLeftmost re s = some (s.take (s.length - r.length), r) := by
  cases s with
  | nil =>
    obtain rfl : r = [] := List.eq_nil_of_suffix_nil (matchNodes_suffix re h)
    simp [findLeftmost, h]
  | cons c s => simp [findLeftmost, h]

/-- The search passes over a prefix at none of whose positions the matcher
finds a match. -/
theorem findLeftmost_append {re : List Node} : ∀ {p s : List Char},
    (∀ i < p.length, matchNodes re ((p ++ s).drop i) = none) → findLeftmost re (p ++ s) = findLeftmost re s
  | [], _, _ => rfl
  | c :: p, s, h => by
    rw [List.cons_append, findLeftmost, show matchNodes re (c :: (p ++ s)) = none from h 0 (Nat.succ_pos _)]
    exact findLeftmost_append fun i hi => h (i + 1) (Nat.succ_lt_succ hi)

theorem findAllString_head? (re : List Node) (s : String) :
    (findAllString re s).head? = (findLeftmost re s.data).map fun p => String.mk p.1 := by
  unfold findAllString
  rw [findAllFuel]
  cases findLeftmost re s.data <;> rfl

theorem findLeftmost_eq_none {re : List Node} : ∀ {s : List Char},
    (∀ i, matchNodes re (s.drop i) = none) → findLeftmost re s = none
  | [], h => by simp [findLeftmost, show matchNodes re [] = none from h 0]
  | c :: s, h => by
    rw [findLeftmost, show matchNodes re (c :: s) = none from h 0]
    exact findLeftmost_eq_none fun i => h (i + 1)

/-- The first match is `m` when the text is `p ++ m ++ z`, the pattern's
leading literal starts nowhere in `p`, and the matcher takes `m` from `m ++ z`. -/
theorem findAllString_head?_eq {l : List Char} {rest : List Node} {s : String} {p m z : List Char}
    (hs : s.data = p ++ (m ++ z)) (hp : ∀ i < p.length, ¬ l <+: s.data.drop i)
    (hm : matchNodes (.lit l :: rest) (m ++ z) = some z) :
    (findAllString (.lit l :: rest) s).head? = some ⟨m⟩ := by
  have hskip : ∀ i < p.length, matchNodes (.lit l :: rest) ((p ++ (m ++ z)).drop i) = none := fun i hi => by
    rw [matchNodes, if_neg (mt List.isPrefixOf_iff_prefix.1 (hs ▸ hp i hi))]
  rw [findAllString_head?, hs, findLeftmost_append hskip, findLeftmost_of_matchNodes hm]
  simp

/-! ## Computing a match -/

theorem matchNodes_lit_append (l s : List Char) (rest : List Node) :
    matchNodes (.lit l :: rest) (l ++ s) = matchNodes rest s := by
  rw [matchNodes, if_pos (List.isPrefixOf_iff_prefix.2 (List.prefix_append _ _)), List.drop_left]

section Compute

variable {k : List Char → Option (List Char)} {r : List Char}

theorem lazyAny_of_eq_some {s : List Char} (h : k s = some r) : lazyAny k s = some r := by
  cases s with
  | nil => exact h
  | cons c s => rw [lazyAny, h]; rfl

/-- `.*?` passes over a prefix without newline at none of whose positions the
rest of the pattern matches. -/
theorem lazyAny_append : ∀ {u s : List Char}, '\n' ∉ u → (∀ i < u.length, k ((u ++ s).drop i) = none) →
    lazyAny k (u ++ s) = lazyAny k s
  | [], _, _, _ => rfl
  | c :: u, s, hu, h => by
    rw [List.cons_append, lazyAny, show k (c :: (u ++ s)) = none from h 0 (Nat.succ_pos _),
      if_neg (by rintro rfl; exact hu (List.mem_cons_self _ _))]
    exact lazyAny_append (fun h' => hu (List.mem_cons_of_mem _ h')) fun i hi => h (i + 1) (Nat.succ_lt_succ hi)

/-- `x*` takes the whole run `u` of the class when the text after it does not
go on with the class and the rest of the pattern matches there. -/
theorem greedyStar_run (cls : Char → Bool) {t : List Char} (ht : ∀ c ∈ t.head?, cls c = false)
    (hk : k t = some r) : ∀ {u : List Char}, (∀ c ∈ u, cls c) → greedyStar cls k (u ++ t) = some r
  | [], _ => by
    cases t with
    | nil => exact hk
    | cons c t => rw [List.nil_append, greedyStar, if_neg (by simp [ht c rfl]), hk]
  | c :: u, hu => by
    rw [List.cons_append, greedyStar, if_pos (hu c (List.mem_cons_self _ _)),
      greedyStar_run cls ht hk fun x hx => hu x (List.mem_cons_of_mem _ hx)]
    rfl

end Compute

end KubeClipper.L1.Go.Regexp
