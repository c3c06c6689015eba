import KubeClipper.L1Go.Builtins
/-!
# `path/filepath`: `Clean` and `Join`

The trust-store renderer names every file with `filepath.Join`, which joins
its non-empty arguments with `/` and runs `filepath.Clean` on the result.
`Clean` splits the path into components, drops empty ones and `.`, lets
`..` remove the component before it (at the root it is dropped; at the start
of a relative path it is kept), and renders the rest.

The file system (`Os`) is addressed by `resolve s`: the components of the
location `s` names, read from the agent's working directory `/`.

Results:
* `components_intercalate`: splitting a rendered list of `/`-free components
  gives the list back.
* `resolve_clean`: `Clean` does not change the location a path names.
* `clean_clean_append`: cleaning, then appending `/x` and cleaning again, is
  cleaning once; so `join_join`: `Join(Join(elems...), x) = Join(elems..., x)`.
* `resolve_join_plain`: joining a plain name adds one component.
-/
namespace KubeClipper.L1.Go

/-! ## Components -/

/-- Split at every `/`, keeping empty components. -/
def splitSlash : List Char → List (List Char)
  | [] => [[]]
  | c :: cs =>
    if c = '/' then [] :: splitSlash cs
    else match splitSlash cs with
      | [] => [[c]]
      | p :: ps => (c :: p) :: ps

/-- The components of a path string, empty ones included. -/
def components (s : String) : List String := (splitSlash s.toList).map String.mk

/-- A component that `Clean` keeps as it is and that names one entry. -/
def Plain (c : String) : Prop := c ≠ "" ∧ c ≠ "." ∧ c ≠ ".." ∧ '/' ∉ c.toList

instance (c : String) : Decidable (Plain c) := inferInstanceAs (Decidable (_ ∧ _ ∧ _ ∧ _))

/-- One component of `Clean`'s scan, on the stack of components kept so far. -/
def cleanPush (rooted : Bool) (acc : List String) (c : String) : List String :=
  if c = "" ∨ c = "." then acc
  else if c = ".." then
    match acc.getLast? with
    | some l => if l = ".." then acc ++ [".."] else acc.dropLast
    | none => if rooted then [] else [".."]
  else acc ++ [c]

def cleanComps (rooted : Bool) (cs : List String) : List String := cs.foldl (cleanPush rooted) []

def isAbs (s : String) : Bool := s.toList.head? = some '/'

/-- `strings.Join(elems, sep)` -/
def stringsJoin (sep : String) : List String → String
  | [] => ""
  | [a] => a
  | a :: b :: as => a ++ sep ++ stringsJoin sep (b :: as)

def render (rooted : Bool) (cs : List String) : String :=
  if rooted then "/" ++ stringsJoin "/" cs
  else if cs = [] then "." else stringsJoin "/" cs

/-- `filepath.Clean` -/
def clean (s : String) : String := render (isAbs s) (cleanComps (isAbs s) (components s))

/-- `filepath.Join(elems...)` -/
def join (elems : List String) : String :=
  match elems.filter (· ≠ "") with
  | [] => ""
  | ne => clean (stringsJoin "/" ne)

/-- The location a path names, as components below `/`. -/
def resolve (s : String) : List String := cleanComps true (components s)

/-! ## Splitting -/

theorem splitSlash_ne_nil : ∀ cs : List Char, splitSlash cs ≠ []
  | [] => by simp [splitSlash]
  | c :: cs => by
    simp only [splitSlash]
    split_ifs
    · simp
    · split <;> simp

theorem splitSlash_append_slash : ∀ (a b : List Char),
    splitSlash (a ++ '/' :: b) = splitSlash a ++ splitSlash b
  | [], b => by simp [splitSlash]
  | c :: a, b => by
    have ih := splitSlash_append_slash a b
    simp only [List.cons_append, splitSlash, List.append_eq]
    split_ifs
    · simp [ih]
    · rw [ih]
      rcases h : splitSlash a with _ | ⟨p, ps⟩
      · exact absurd h (splitSlash_ne_nil a)
      · rfl

theorem splitSlash_of_not_mem : ∀ {cs : List Char}, '/' ∉ cs → splitSlash cs = [cs]
  | [], _ => rfl
  | c :: cs, h => by
    simp only [List.mem_cons, not_or] at h
    simp [splitSlash, Ne.symm h.1, splitSlash_of_not_mem h.2]

theorem components_append_slash (a b : String) : components (a ++ "/" ++ b) = components a ++ components b := by
  simp only [components, String.append_assoc]
  show List.map String.mk (splitSlash (a.data ++ '/' :: b.data)) = _
  rw [splitSlash_append_slash, List.map_append]
  rfl

theorem components_of_not_mem {s : String} (h : '/' ∉ s.toList) : components s = [s] := by
  rw [components, splitSlash_of_not_mem h]
  rfl

/-- Rendering `/`-free components and splitting gives them back. -/
theorem components_intercalate : ∀ {cs : List String}, cs ≠ [] → (∀ c ∈ cs, '/' ∉ c.toList) →
    components (stringsJoin "/" cs) = cs
  | [c], _, h => by simpa using components_of_not_mem (h c (List.mem_singleton_self c))
  | c :: d :: cs, _, h => by
    rw [stringsJoin, components_append_slash,
      components_of_not_mem (h c (List.mem_cons_self _ _)),
      components_intercalate (List.cons_ne_nil d cs) (fun x hx => h x (List.mem_cons_of_mem _ hx))]
    rfl

/-! ## Cleaning -/

/-- The stacks `Clean` builds: a run of `..` (none under the root), then plain names. -/
def CleanStack (rooted : Bool) (cs : List String) : Prop :=
  ∃ k names, cs = List.replicate k ".." ++ names ∧ (rooted → k = 0) ∧ ∀ c ∈ names, Plain c

theorem Plain.not_slash {c : String} (h : Plain c) : '/' ∉ c.toList := h.2.2.2

theorem cleanPush_plain {c : String} (h : Plain c) (r : Bool) (acc : List String) :
    cleanPush r acc c = acc ++ [c] := by
  simp [cleanPush, h.1, h.2.1, h.2.2.1]

theorem cleanComps_append_singleton (r : Bool) (acc : List String) (c : String) :
    cleanComps r (acc ++ [c]) = cleanPush r (cleanComps r acc) c := by
  simp [cleanComps]

theorem foldl_cleanPush_plain (r : Bool) : ∀ (acc names : List String), (∀ c ∈ names, Plain c) →
    names.foldl (cleanPush r) acc = acc ++ names
  | acc, [], _ => by simp
  | acc, c :: names, h => by
    rw [List.foldl_cons, cleanPush_plain (h c (List.mem_cons_self _ _)),
      foldl_cleanPush_plain r _ names (fun x hx => h x (List.mem_cons_of_mem _ hx))]
    simp

theorem cleanComps_replicate_dots : ∀ k, cleanComps false (List.replicate k "..") = List.replicate k ".."
  | 0 => rfl
  | k + 1 => by
    rw [List.replicate_succ', cleanComps_append_singleton, cleanComps_replicate_dots k]
    cases k <;> simp [cleanPush, List.replicate_succ']

/-- Cleaning a clean stack leaves it as it is. -/
theorem cleanComps_of_cleanStack {r : Bool} {cs : List String} (h : CleanStack r cs) :
    cleanComps r cs = cs := by
  obtain ⟨k, names, rfl, hk, hn⟩ := h
  have hdots : cleanComps r (List.replicate k "..") = List.replicate k ".." := by
    cases r
    · exact cleanComps_replicate_dots k
    · simp [hk rfl, cleanComps]
  rw [cleanComps, List.foldl_append, ← cleanComps, hdots, foldl_cleanPush_plain r _ _ hn]

theorem cleanStack_nil (r : Bool) : CleanStack r [] := ⟨0, [], rfl, fun _ => rfl, by simp⟩

/-- The last entry of a clean stack, unless it is `..`, is a plain name, and the
stack without it is clean. -/
theorem CleanStack.pop {r : Bool} {cs : List String} (h : CleanStack r cs) {l : String}
    (hl : cs.getLast? = some l) (hne : l ≠ "..") : Plain l ∧ CleanStack r cs.dropLast := by
  obtain ⟨k, names, rfl, hk, hn⟩ := h
  rcases names.eq_nil_or_concat with rfl | ⟨L, b, rfl⟩
  · cases k with
    | zero => simp at hl
    | succ k => simp [List.replicate_succ'] at hl; exact absurd hl.symm hne
  · rw [List.concat_eq_append, ← List.append_assoc] at hl ⊢
    rw [List.getLast?_concat, Option.some.injEq] at hl
    subst hl
    exact ⟨hn _ (by simp), k, L, by simp, hk, fun c hc => hn c (by simp [hc])⟩

theorem CleanStack.push_dots {r : Bool} {cs : List String} (h : CleanStack r cs)
    (hl : cs.getLast? = some "..") : CleanStack r (cs ++ [".."]) := by
  obtain ⟨k, names, rfl, hk, hn⟩ := h
  rcases names.eq_nil_or_concat with rfl | ⟨L, b, rfl⟩
  · cases k with
    | zero => simp at hl
    | succ k => exact ⟨k + 2, [], by simp [List.replicate_succ'], fun hr => absurd (hk hr) k.succ_ne_zero, by simp⟩
  · rw [List.concat_eq_append, ← List.append_assoc, List.getLast?_concat, Option.some.injEq] at hl
    exact absurd hl (hn b (by simp)).2.2.1

theorem CleanStack.push_plain {r : Bool} {cs : List String} (h : CleanStack r cs) {c : String}
    (hc : Plain c) : CleanStack r (cs ++ [c]) := by
  obtain ⟨k, names, rfl, hk, hn⟩ := h
  exact ⟨k, names ++ [c], by simp, hk, by simpa [or_imp, forall_and] using ⟨hn, hc⟩⟩

/-- One step of `Clean` keeps the stack clean. -/
theorem CleanStack.cleanPush {r : Bool} {acc : List String} (h : CleanStack r acc) {c : String}
    (hc : '/' ∉ c.toList) : CleanStack r (cleanPush r acc c) := by
  unfold KubeClipper.L1.Go.cleanPush
  by_cases h0 : c = "" ∨ c = "."
  · simpa [h0] using h
  by_cases h1 : c = ".."
  · simp only [h0, h1, if_false, if_true]
    rcases hl : acc.getLast? with _ | l
    · cases r
      · exact ⟨1, [], rfl, nofun, by simp⟩
      · exact cleanStack_nil true
    · by_cases hdd : l = ".."
      · simpa [hdd] using h.push_dots (hdd ▸ hl)
      · simpa [hdd] using (h.pop hl hdd).2
  · simpa [h0, h1] using
      h.push_plain ⟨fun e => h0 (Or.inl e), fun e => h0 (Or.inr e), h1, hc⟩

theorem mem_splitSlash_not_slash : ∀ {cs p : List Char}, p ∈ splitSlash cs → '/' ∉ p
  | [], p, h => by simp_all [splitSlash]
  | c :: cs, p, h => by
    simp only [splitSlash] at h
    split_ifs at h with hc
    · rcases List.mem_cons.1 h with rfl | h
      · simp
      · exact mem_splitSlash_not_slash h
    · split at h
      · rw [List.mem_singleton.1 h]
        simpa using Ne.symm hc
      · next q qs hq =>
        rcases List.mem_cons.1 h with rfl | h
        · simpa [Ne.symm hc] using mem_splitSlash_not_slash (hq ▸ List.mem_cons_self q qs)
        · exact mem_splitSlash_not_slash (hq ▸ List.mem_cons_of_mem q h)

theorem mem_components_not_slash {s c : String} (h : c ∈ components s) : '/' ∉ c.toList := by
  obtain ⟨p, hp, rfl⟩ := List.mem_map.1 h
  exact mem_splitSlash_not_slash hp

theorem cleanStack_foldl (r : Bool) : ∀ {acc : List String} (cs : List String), CleanStack r acc →
    (∀ c ∈ cs, '/' ∉ c.toList) → CleanStack r (cs.foldl (cleanPush r) acc)
  | _, [], h, _ => h
  | _, c :: cs, h, hcs => cleanStack_foldl r cs (h.cleanPush (hcs c (List.mem_cons_self _ _)))
      (fun x hx => hcs x (List.mem_cons_of_mem _ hx))

theorem cleanStack_cleanComps (r : Bool) (s : String) : CleanStack r (cleanComps r (components s)) :=
  cleanStack_foldl r _ (cleanStack_nil r) (fun _ => mem_components_not_slash)

theorem CleanStack.mem {r : Bool} {cs : List String} (h : CleanStack r cs) {c : String}
    (hc : c ∈ cs) : c ≠ "" ∧ '/' ∉ c.toList := by
  obtain ⟨k, names, rfl, -, hn⟩ := h
  rcases List.mem_append.1 hc with hc | hc
  · rw [List.eq_of_mem_replicate hc]
    decide
  · exact ⟨(hn c hc).1, (hn c hc).not_slash⟩

theorem CleanStack.plain_of_rooted {cs : List String} (h : CleanStack true cs) : ∀ c ∈ cs, Plain c := by
  obtain ⟨k, names, rfl, hk, hn⟩ := h
  simpa [hk rfl] using hn

theorem cleanComps_append (r : Bool) (a b : List String) :
    cleanComps r (a ++ b) = b.foldl (cleanPush r) (cleanComps r a) := by
  simp [cleanComps]

/-! ## Rendering -/

theorem stringsJoin_cons (c : String) (cs : List String) : ∃ t, stringsJoin "/" (c :: cs) = c ++ t := by
  cases cs with
  | nil => exact ⟨"", by simp [stringsJoin]⟩
  | cons d cs => exact ⟨"/" ++ stringsJoin "/" (d :: cs), by simp [stringsJoin, String.append_assoc]⟩

theorem head?_append_of_ne_empty {a : String} (ha : a ≠ "") (t : String) :
    (a ++ t).toList.head? = a.toList.head? := by
  obtain ⟨c, cs, hcs⟩ := List.exists_cons_of_ne_nil (fun h => ha (String.ext h))
  simp [String.toList] at hcs ⊢
  simp [hcs]

theorem head?_ne_slash {a : String} (h : '/' ∉ a.toList) : a.toList.head? ≠ some '/' :=
  fun hh => h (List.mem_of_mem_head? hh)

theorem isAbs_append_slash {a : String} (ha : a ≠ "") (x : String) : isAbs (a ++ "/" ++ x) = isAbs a := by
  rw [isAbs, String.append_assoc, head?_append_of_ne_empty ha, isAbs]

theorem append_ne_empty {a : String} (ha : a ≠ "") (t : String) : a ++ t ≠ "" :=
  fun h0 => ha (String.ext (List.append_eq_nil.1 (congrArg String.data h0)).1)

theorem render_eq_append {r : Bool} {cs : List String} (h : CleanStack r cs) :
    ∃ c t, render r cs = c ++ t ∧ c ≠ "" ∧ (c.toList.head? = some '/' ↔ r = true) := by
  cases r with
  | true => exact ⟨"/", _, rfl, by decide, by simp⟩
  | false =>
    rcases cs with _ | ⟨c, cs⟩
    · exact ⟨".", "", rfl, by decide, by decide⟩
    · obtain ⟨t, ht⟩ := stringsJoin_cons c cs
      have hc := h.mem (List.mem_cons_self c cs)
      exact ⟨c, t, by simp [render, ht], hc.1, by simpa using head?_ne_slash hc.2⟩

theorem isAbs_render {r : Bool} {cs : List String} (h : CleanStack r cs) : isAbs (render r cs) = r := by
  obtain ⟨c, t, he, hc, hr⟩ := render_eq_append h
  rw [he, isAbs, head?_append_of_ne_empty hc]
  cases r <;> simpa using hr

theorem render_ne_empty {r : Bool} {cs : List String} (h : CleanStack r cs) : render r cs ≠ "" := by
  obtain ⟨c, t, he, hc, -⟩ := render_eq_append h
  rw [he]
  exact append_ne_empty hc t

/-- Splitting what `render` wrote and cleaning gives what cleaning the rendered stack gives. -/
theorem cleanComps_components_render (r r' : Bool) {cs : List String} (h : ∀ c ∈ cs, '/' ∉ c.toList) :
    cleanComps r' (components (render r cs)) = cleanComps r' cs := by
  by_cases hcs : cs = []
  · subst hcs
    cases r <;> cases r' <;> rfl
  · cases r
    · simp only [render, hcs, if_false, Bool.false_eq_true, components_intercalate hcs h]
    · rw [render, if_pos rfl, show "/" ++ stringsJoin "/" cs = "" ++ "/" ++ stringsJoin "/" cs by simp,
        components_append_slash, components_intercalate hcs h, cleanComps_append,
        show cleanComps r' (components "") = [] by cases r' <;> rfl]
      rfl

theorem isAbs_clean (s : String) : isAbs (clean s) = isAbs s :=
  isAbs_render (cleanStack_cleanComps _ s)

theorem clean_ne_empty (s : String) : clean s ≠ "" :=
  render_ne_empty (cleanStack_cleanComps _ s)

theorem cleanComps_components_clean (s : String) :
    cleanComps (isAbs s) (components (clean s)) = cleanComps (isAbs s) (components s) := by
  have h := cleanStack_cleanComps (isAbs s) s
  rw [clean, cleanComps_components_render _ _ (fun c hc => (h.mem hc).2), cleanComps_of_cleanStack h]

theorem clean_congr {t u : String} (h1 : isAbs t = isAbs u)
    (h2 : cleanComps (isAbs u) (components t) = cleanComps (isAbs u) (components u)) :
    clean t = clean u := by
  rw [clean, h1, h2, clean]

/-- Cleaning, appending `/x` and cleaning again is cleaning once. -/
theorem clean_clean_append {a : String} (ha : a ≠ "") (x : String) :
    clean (clean a ++ "/" ++ x) = clean (a ++ "/" ++ x) := by
  have habs : isAbs (clean a ++ "/" ++ x) = isAbs (a ++ "/" ++ x) := by
    rw [isAbs_append_slash (clean_ne_empty a), isAbs_append_slash ha, isAbs_clean]
  refine clean_congr habs ?_
  rw [components_append_slash, components_append_slash, cleanComps_append, cleanComps_append,
    isAbs_append_slash ha, cleanComps_components_clean]

theorem join_pair {a b : String} (ha : a ≠ "") (hb : b ≠ "") : join [a, b] = clean (a ++ "/" ++ b) := by
  simp [join, ha, hb, stringsJoin]

theorem stringsJoin_append_singleton (sep : String) : ∀ {l : List String}, l ≠ [] → ∀ x,
    stringsJoin sep (l ++ [x]) = stringsJoin sep l ++ sep ++ x
  | [_], _, _ => rfl
  | a :: b :: l, _, x => by
    rw [List.cons_append, List.cons_append, stringsJoin, ← List.cons_append,
      stringsJoin_append_singleton sep (List.cons_ne_nil b l) x, stringsJoin]
    simp [String.append_assoc]

theorem join_of_filter {l ne : List String} (h : l.filter (· ≠ "") = ne) (hne : ne ≠ []) :
    join l = clean (stringsJoin "/" ne) := by
  rcases ne with _ | ⟨a, ne⟩
  · exact absurd rfl hne
  · rw [join, h]

/-- `Join(Join(elems...), x) = Join(elems..., x)`: a joined path can be joined
again, as `renderConfigs` does with the host directory. -/
theorem join_join (l : List String) {x : String} (hx : x ≠ "") : join [join l, x] = join (l ++ [x]) := by
  have hfx : (l ++ [x]).filter (· ≠ "") = l.filter (· ≠ "") ++ [x] := by simp [List.filter_append, hx]
  rcases hne : l.filter (· ≠ "") with _ | ⟨a, ne⟩
  · have hl : join l = "" := by rw [join, hne]
    rw [hl, @join_of_filter ["", x] [x] (by simp [hx]) (List.cons_ne_nil x []),
      @join_of_filter (l ++ [x]) [x] (by rw [hfx, hne]; rfl) (List.cons_ne_nil x [])]
  · have hmem : ∀ c ∈ a :: ne, c ≠ "" := fun c hc =>
      of_decide_eq_true (List.mem_filter.1 (show c ∈ l.filter (· ≠ "") by rw [hne]; exact hc)).2
    have hJ : stringsJoin "/" (a :: ne) ≠ "" := by
      obtain ⟨t, ht⟩ := stringsJoin_cons a ne
      exact ht ▸ append_ne_empty (hmem a (List.mem_cons_self a ne)) t
    rw [join_of_filter hne (List.cons_ne_nil a ne), join_pair (clean_ne_empty _) hx,
      clean_clean_append hJ, join_of_filter (hfx.trans (by rw [hne])) (by simp),
      stringsJoin_append_singleton "/" (List.cons_ne_nil a ne)]

theorem join_ne_empty_of_mem {l : List String} {x : String} (hx : x ∈ l) (hne : x ≠ "") : join l ≠ "" := by
  rcases hf : l.filter (· ≠ "") with _ | ⟨a, ne⟩
  · exact absurd (hf ▸ List.mem_filter.2 ⟨hx, by simpa using hne⟩ : x ∈ ([] : List String)) (by simp)
  · rw [join_of_filter hf (List.cons_ne_nil a ne)]
    exact clean_ne_empty _

example : join ["/etc/containerd/certs.d", "a/"] = "/etc/containerd/certs.d/a" := by decide

/-! ## Resolving -/

/-- One step of a relative `Clean`, read from `/`, is one step of a rooted `Clean`. -/
theorem cleanComps_true_cleanPush_false {acc : List String} (h : CleanStack false acc) (c : String) :
    cleanComps true (cleanPush false acc c) = cleanPush true (cleanComps true acc) c := by
  by_cases h0 : c = "" ∨ c = "."
  · simp [cleanPush, h0]
  by_cases h1 : c = ".."
  · subst h1
    rcases hl : acc.getLast? with _ | l
    · rw [List.getLast?_eq_none_iff.1 hl]
      rfl
    · by_cases hdd : l = ".."
      · subst hdd
        rw [show cleanPush false acc ".." = acc ++ [".."] by simp [cleanPush, hl],
          cleanComps_append_singleton]
      · have hp := (h.pop hl hdd).1
        have hsplit := List.dropLast_append_getLast? l hl
        conv_rhs => rw [← hsplit, cleanComps_append_singleton, cleanPush_plain hp]
        simp [cleanPush, hl, hdd]
  · simp only [cleanPush, h0, h1, if_false, cleanComps_append_singleton]

theorem foldl_cleanPush_false (cs : List String) (hcs : ∀ c ∈ cs, '/' ∉ c.toList) :
    ∀ {acc : List String}, CleanStack false acc →
    cleanComps true (cs.foldl (cleanPush false) acc) = cs.foldl (cleanPush true) (cleanComps true acc) := by
  induction cs with
  | nil => intro acc _; rfl
  | cons c cs ih =>
    intro acc h
    rw [List.foldl_cons, List.foldl_cons, ih (fun x hx => hcs x (List.mem_cons_of_mem _ hx))
      (h.cleanPush (hcs c (List.mem_cons_self _ _))), cleanComps_true_cleanPush_false h]

/-- Read from `/`, a cleaned path names what the path names. -/
theorem resolve_cleanComps (r : Bool) (s : String) :
    cleanComps true (cleanComps r (components s)) = resolve s := by
  cases r
  · show cleanComps true ((components s).foldl (cleanPush false) []) = _
    rw [foldl_cleanPush_false _ (fun _ => mem_components_not_slash) (cleanStack_nil false)]
    rfl
  · exact cleanComps_of_cleanStack (cleanStack_cleanComps true s)

theorem resolve_clean (s : String) : resolve (clean s) = resolve s := by
  rw [resolve, clean, cleanComps_components_render _ _
    (fun c hc => ((cleanStack_cleanComps _ s).mem hc).2), resolve_cleanComps]

theorem resolve_plain (s : String) : ∀ c ∈ resolve s, Plain c :=
  (cleanStack_cleanComps true s).plain_of_rooted

/-- Joining a plain name adds one component to the location. -/
theorem resolve_join_plain (dir : String) {name : String} (hn : Plain name) :
    resolve (join [dir, name]) = resolve dir ++ [name] := by
  by_cases hd : dir = ""
  · subst hd
    rw [@join_of_filter ["", name] [name] (by simp [hn.1]) (List.cons_ne_nil _ _), resolve_clean, resolve,
      stringsJoin, components_of_not_mem hn.not_slash, cleanComps, List.foldl_cons, List.foldl_nil,
      cleanPush_plain hn]
    rfl
  · rw [join_pair hd hn.1, resolve_clean, resolve, components_append_slash,
      components_of_not_mem hn.not_slash, cleanComps_append_singleton, cleanPush_plain hn]
    rfl

end KubeClipper.L1.Go
