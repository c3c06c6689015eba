import KubeClipper.L1Go.Strings
import KubeClipper.L1Go.Regexp
/-!
# Extracting the join commands from `kubeadm init`'s output

`extractJoinCommands` (k8s/utils.go:49-74) flattens the output with
`sanitizeCommand` (backslash-newline continuations become spaces, then every
run of white space one space) and takes:

* `master`: the first match of
  `kubeadm join.*?--control-plane.*?--certificate-key\s+\S+`;
* `worker`: the first match of
  `kubeadm join.*?--token\s+\S+.*?--discovery-token-ca-cert-hash\s+\S+`
  that does not contain `--control-plane`.

A match starts at the leftmost position where the pattern matches, and the
lazy `.*?` is free to run across a command's end into the next one. When the
worker command comes first, the master pattern matches from the worker's
`kubeadm join` to the control-plane flags of the command after it.

Results:
* `sanitizeCommand_normal_form`: the cleaning changes only white space, and
  cleaning cleaned text changes nothing.
* `master_starts_at_first_join`: when a control-plane command stands anywhere
  after the first `kubeadm join` of the cleaned output, `master` is a match
  that starts at that `kubeadm join`.
* `master_ne_masterJoin_of_worker_first`: so when the worker command comes
  first, after any text without `kubeadm join`, `master` is not the
  control-plane command, whatever the endpoint, token, hash and key.
* `worker_first_master_spans_both`: on such output `master` is both commands
  joined.
* `extractJoinCommands_control_plane_first`: in `kubeadm init`'s own order,
  the control-plane command first, both commands come out whole, whatever
  follows them; `worker` is read from the control-plane command, whose prefix
  up to the hash is the worker pattern's first match.
* `extractJoinCommands_worker_only`: on output with one worker command and no
  `--control-plane`, `master` is empty and `worker` is the command.

The last two hold for endpoints, tokens, hashes and keys that are words
(`IsWord`) and do not hold the flags the lazy `.*?` looks for.
-/
namespace KubeClipper.L4.K8s

open KubeClipper.L1.Go KubeClipper.L1.Go.Regexp

/-- mirrors k8s/utils.go:43-47 -/
def sanitizeCommand (input : String) : String :=
  let cleaned := replaceAll input "\\\n" " "
  stringsJoin " " (fields cleaned)

/-- `kubeadm join.*?--control-plane.*?--certificate-key\s+\S+` -/
def masterPattern : List Node :=
  [.lit "kubeadm join".data, .lazyAny, .lit "--control-plane".data, .lazyAny,
    .lit "--certificate-key".data, .plus perlSpace, .plus (fun c => !perlSpace c)]

/-- `kubeadm join.*?--token\s+\S+.*?--discovery-token-ca-cert-hash\s+\S+` -/
def workerPattern : List Node :=
  [.lit "kubeadm join".data, .lazyAny, .lit "--token".data, .plus perlSpace,
    .plus (fun c => !perlSpace c), .lazyAny, .lit "--discovery-token-ca-cert-hash".data,
    .plus perlSpace, .plus (fun c => !perlSpace c)]

/-- mirrors k8s/utils.go:49-74 -/
def extractJoinCommands (output : String) : String × String :=
  let cleanedOutput := sanitizeCommand output
  let masterMatches := findAllString masterPattern cleanedOutput
  let workerMatches := findAllString workerPattern cleanedOutput
  (masterMatches.head?.getD "",
    (workerMatches.find? fun m => !contains m "--control-plane").getD "")

theorem extractJoinCommands_fst (output : String) :
    (extractJoinCommands output).1 = (findAllString masterPattern (sanitizeCommand output)).head?.getD "" := by
  simp only [extractJoinCommands]

/-! ## `master` starts at the first join -/

/-- The cleaned output has no newline: `strings.Fields` splits at every one. -/
theorem newline_not_mem_sanitizeCommand (input : String) : '\n' ∉ (sanitizeCommand input).data := by
  intro h
  rcases mem_stringsJoin h with h | ⟨f, hf, h⟩
  · simp at h
  · exact absurd ((mem_fields hf).2 _ h) (by decide)

/-- `sanitizeCommand` changes only white space: the cleaned text has the words
of the output once its continuations are joined, so cleaning it again changes
nothing. -/
theorem sanitizeCommand_normal_form (output : String) :
    fields (sanitizeCommand output) = fields (replaceAll output "\\\n" " ") ∧
    sanitizeCommand (sanitizeCommand output) = sanitizeCommand output := by
  have hw : fields (sanitizeCommand output) = fields (replaceAll output "\\\n" " ") :=
    fields_stringsJoin fun w hw => mem_fields hw
  refine ⟨hw, ?_⟩
  rw [sanitizeCommand, replaceAll_of_not_mem (c := '\n') (by decide) (newline_not_mem_sanitizeCommand output), hw]
  rfl

/-- `master` is a control-plane match that starts at the first `kubeadm join`
of the cleaned output whenever a control-plane command `m` stands anywhere
after it: the lazy `.*?` runs from that `kubeadm join` over whatever lies
before `m`. -/
theorem master_starts_at_first_join {output : String} {p y m z : List Char}
    (hs : (sanitizeCommand output).data = p ++ ("kubeadm join".data ++ y ++ m ++ z))
    (hp : ∀ i < p.length, ¬ "kubeadm join".data <+: (sanitizeCommand output).data.drop i)
    (hm : Matches masterPattern m) :
    ∃ v, (sanitizeCommand output).data = p ++ (extractJoinCommands output).1.data ++ v ∧
      Matches masterPattern (extractJoinCommands output).1.data := by
  have hy : '\n' ∉ y := fun h => newline_not_mem_sanitizeCommand output (by simp [hs, h])
  have hall : Matches masterPattern _ := Matches.extend_lit_lazyAny (by decide) hy hm
  obtain ⟨r, hr⟩ := Option.ne_none_iff_exists'.1 (matchNodes_complete hall z)
  obtain ⟨m', ht, hm'⟩ := matchNodes_sound _ hr
  have hskip : ∀ i < p.length,
      matchNodes masterPattern ((p ++ ("kubeadm join".data ++ y ++ m ++ z)).drop i) = none := by
    intro i hi
    rw [← hs]
    cases hc : matchNodes masterPattern ((sanitizeCommand output).data.drop i) with
    | none => rfl
    | some r' =>
      obtain ⟨m'', he, hm''⟩ := matchNodes_sound _ hc
      exact absurd (he ▸ hm''.lit_prefix.trans (List.prefix_append _ _)) (hp i hi)
  have hmaster : (extractJoinCommands output).1 = ⟨m'⟩ := by
    rw [extractJoinCommands_fst, findAllString_head?, hs, findLeftmost_append hskip,
      findLeftmost_of_matchNodes hr, ht]
    simp
  exact ⟨r, by rw [hmaster, hs, ht, List.append_assoc], hmaster ▸ hm'⟩

/-! ## The worker command first -/

/-- A non-empty string without white space: an endpoint, token, hash or key. -/
def IsWord (s : String) : Prop := s ≠ "" ∧ ∀ c ∈ s.data, isSpace c = false

/-- `kubeadm join <endpoint> --token <token> --discovery-token-ca-cert-hash <caHash>` -/
def workerJoin (endpoint token caHash : String) : String :=
  "kubeadm join " ++ endpoint ++ " --token " ++ token ++ " --discovery-token-ca-cert-hash " ++ caHash

/-- The worker command with `--control-plane --certificate-key <certificateKey>`. -/
def masterJoin (endpoint token caHash certificateKey : String) : String :=
  workerJoin endpoint token caHash ++ " --control-plane --certificate-key " ++ certificateKey

theorem perlSpace_imp_isSpace {c : Char} (h : perlSpace c = true) : isSpace c = true := by
  simp only [perlSpace, Bool.or_eq_true, decide_eq_true_eq] at h
  simp only [isSpace]
  rcases h with (((h | h) | h) | h) | h <;> rw [h] <;> rfl

theorem IsWord.newline_not_mem {s : String} (h : IsWord s) : '\n' ∉ s.data :=
  fun hn => absurd (h.2 _ hn) (by decide)

theorem masterJoin_matches {e t h k : String} (he : IsWord e) (ht : IsWord t) (hh : IsWord h)
    (hk : IsWord k) : Matches masterPattern (masterJoin e t h k).data := by
  have hu : '\n' ∉ (" " ++ e ++ " --token " ++ t ++ " --discovery-token-ca-cert-hash " ++ h ++ " ").data := by
    simp [he.newline_not_mem, ht.newline_not_mem, hh.newline_not_mem]
  have hkd : k.data ≠ [] := fun e => hk.1 (String.ext e)
  have hks : ∀ c ∈ k.data, (!perlSpace c) = true := fun c hc => by
    simpa using mt perlSpace_imp_isSpace (by simp [hk.2 c hc])
  have hdata : (masterJoin e t h k).data = "kubeadm join".data ++
      ((" " ++ e ++ " --token " ++ t ++ " --discovery-token-ca-cert-hash " ++ h ++ " ").data ++
        ("--control-plane".data ++ ([' '] ++ ("--certificate-key".data ++ ([' '] ++ (k.data ++ [])))))) := by
    simp only [masterJoin, workerJoin, String.data_append, List.append_assoc, List.append_nil]
    rfl
  rw [hdata]
  exact .lit <| .lazyAny hu <| .lit <| .lazyAny (by decide) <| .lit <|
    .plus (by decide) (by decide) <| .plus hkd hks .nil

/-- When the cleaned output holds the worker command, then the control-plane
command, with no `kubeadm join` starting in the text before them, `master` is
not the control-plane command, for every endpoint, token, hash and key. -/
theorem master_ne_masterJoin_of_worker_first {e t h k : String} (he : IsWord e) (ht : IsWord t)
    (hh : IsWord h) (hk : IsWord k) {output p z : String}
    (hs : sanitizeCommand output = p ++ workerJoin e t h ++ " " ++ masterJoin e t h k ++ z)
    (hp : ∀ i < p.data.length, ¬ "kubeadm join".data <+: (sanitizeCommand output).data.drop i) :
    (extractJoinCommands output).1 ≠ masterJoin e t h k := by
  have hs' : (sanitizeCommand output).data = p.data ++ ("kubeadm join".data ++
      ((" " ++ e ++ " --token " ++ t ++ " --discovery-token-ca-cert-hash " ++ h).data ++ [' ']) ++
        (masterJoin e t h k).data ++ z.data) := by
    rw [hs]
    simp only [workerJoin, String.data_append, List.append_assoc]
    rfl
  obtain ⟨v, hv, -⟩ := master_starts_at_first_join hs' hp (masterJoin_matches he ht hh hk)
  intro heq
  rw [heq, hs] at hv
  simp only [masterJoin, workerJoin, String.data_append, List.append_assoc, List.append_cancel_left_eq] at hv
  change ' ' :: 'k' :: _ = ' ' :: '-' :: _ at hv
  simp at hv

/-- The worker join command of the samples. -/
def sampleWorker : String := workerJoin "lb:6443" "abc.def" "sha256:0a1b"

/-- The control-plane join command of the samples. -/
def sampleMaster : String := masterJoin "lb:6443" "abc.def" "sha256:0a1b" "9f8e"

/-- Output that prints the worker command first, each split by a continuation. -/
def workerFirstOutput : String :=
  "kubeadm join lb:6443 --token abc.def \\\n\t--discovery-token-ca-cert-hash sha256:0a1b\n" ++
  "kubeadm join lb:6443 --token abc.def \\\n\t--discovery-token-ca-cert-hash sha256:0a1b " ++
  "\\\n\t--control-plane --certificate-key 9f8e\n"

set_option maxRecDepth 20000 in
example : sanitizeCommand workerFirstOutput = "" ++ sampleWorker ++ " " ++ sampleMaster ++ "" := by decide

set_option maxRecDepth 20000 in
theorem worker_first_master_spans_both :
    extractJoinCommands workerFirstOutput = (sampleWorker ++ " " ++ sampleMaster, sampleWorker) := by
  decide

/-! ## The control-plane command first

The cleaned output is a run of words, each followed by one space (`spaced`).
A literal without a space starts only inside a word, so the lazy `.*?` stops
at the first word that holds it, and a greedy `\S+` takes a whole word. -/

/-- Words, each followed by one space, then the text `x`. -/
def spaced (ws : List (List Char)) (x : List Char) : List Char := ws.foldr (fun w acc => w ++ ' ' :: acc) x

@[simp] theorem spaced_nil (x : List Char) : spaced [] x = x := rfl

@[simp] theorem spaced_cons (w : List Char) (ws : List (List Char)) (x : List Char) :
    spaced (w :: ws) x = w ++ ' ' :: spaced ws x := rfl

@[simp] theorem spaced_append (ws : List (List Char)) (x y : List Char) : spaced ws x ++ y = spaced ws (x ++ y) := by
  induction ws with
  | nil => rfl
  | cons w ws ih => simp [ih]

theorem newline_not_mem_spaced : ∀ {ws : List (List Char)}, (∀ w ∈ ws, '\n' ∉ w) → '\n' ∉ spaced ws []
  | [], _ => List.not_mem_nil _
  | w :: ws, h => by
    simp only [spaced_cons, List.mem_append, List.mem_cons, not_or]
    exact ⟨h w (List.mem_cons_self _ _), by decide,
      newline_not_mem_spaced fun w' hw' => h w' (List.mem_cons_of_mem _ hw')⟩

theorem prefix_of_prefix_append_space {l a b : List Char} (hl : ' ' ∉ l) (h : l <+: a ++ ' ' :: b) : l <+: a := by
  rcases List.prefix_or_prefix_of_prefix h (show a ++ [' '] <+: a ++ ' ' :: b from ⟨b, by simp⟩) with h | h
  · rcases List.prefix_concat_iff.1 h with rfl | h
    · simp at hl
    · exact h
  · exact absurd (h.subset (by simp)) hl

/-- A text without a space that starts at position `i` of `spaced ws x` lies
inside one of the words, or starts in `x`. -/
theorem prefix_drop_spaced {l x : List Char} (hl : ' ' ∉ l) : ∀ (ws : List (List Char)) (i : Nat),
    l <+: (spaced ws x).drop i → (∃ w ∈ ws, l <:+: w) ∨ ∃ j, i = (spaced ws []).length + j ∧ l <+: x.drop j
  | [], i, h => .inr ⟨i, by simp, h⟩
  | w :: ws, i, h => by
    rw [spaced_cons] at h
    rcases Nat.lt_or_ge w.length i with hi | hi
    · obtain ⟨j, rfl⟩ := Nat.exists_eq_add_of_lt hi
      rw [Nat.add_assoc, List.drop_append, List.drop_succ_cons] at h
      rcases prefix_drop_spaced hl ws j h with ⟨w', hw', h'⟩ | ⟨j', rfl, h'⟩
      · exact .inl ⟨w', List.mem_cons_of_mem _ hw', h'⟩
      · exact .inr ⟨j', by simp; omega, h'⟩
    · rw [List.drop_append_of_le_length hi] at h
      exact .inl ⟨w, List.mem_cons_self _ _,
        (prefix_of_prefix_append_space hl h).isInfix.trans (List.drop_suffix i w).isInfix⟩

theorem infix_spaced {l x : List Char} (hl : ' ' ∉ l) {ws : List (List Char)} (h : l <:+: spaced ws x) :
    (∃ w ∈ ws, l <:+: w) ∨ l <:+: x := by
  obtain ⟨a, b, hab⟩ := h
  have hp : l <+: (spaced ws x).drop a.length := ⟨b, by rw [← hab, List.append_assoc, List.drop_left]⟩
  rcases prefix_drop_spaced hl ws _ hp with h | ⟨j, -, hj⟩
  · exact .inl h
  · exact .inr (hj.isInfix.trans (List.drop_suffix j x).isInfix)

/-- `.*?` followed by a literal without a space stops at the literal that
follows the words it is not in. -/
theorem matchNodes_lazyAny_lit {l s r : List Char} {rest : List Node} {ws : List (List Char)}
    (hl : ' ' ∉ l) (hws : ∀ w ∈ ws, '\n' ∉ w ∧ ¬ l <:+: w) (h : matchNodes rest s = some r) :
    matchNodes (.lazyAny :: .lit l :: rest) (spaced ws (l ++ s)) = some r := by
  have hfirst : ∀ i < (spaced ws []).length,
      matchNodes (.lit l :: rest) ((spaced ws [] ++ (l ++ s)).drop i) = none := fun i hi => by
    rw [matchNodes, if_neg (mt List.isPrefixOf_iff_prefix.1 fun hp => ?_)]
    rw [spaced_append, List.nil_append] at hp
    rcases prefix_drop_spaced hl ws i hp with ⟨w, hw, hlw⟩ | ⟨j, rfl, -⟩
    · exact (hws w hw).2 hlw
    · omega
  have hsplit : spaced ws (l ++ s) = spaced ws [] ++ (l ++ s) := by rw [spaced_append, List.nil_append]
  rw [matchNodes, hsplit, lazyAny_append (newline_not_mem_spaced fun w hw => (hws w hw).1) hfirst]
  exact lazyAny_of_eq_some (by rw [matchNodes_lit_append]; exact h)

/-- `\s+\S+` over a space and a word `w`, when the text after the word begins
with a space or is empty. -/
theorem matchNodes_space_word {rest : List Node} {w tail r : List Char} (hw : w ≠ [])
    (hws : ∀ c ∈ w, perlSpace c = false) (htail : ∀ c ∈ tail.head?, c = ' ') (h : matchNodes rest tail = some r) :
    matchNodes (.plus perlSpace :: .plus (fun c => !perlSpace c) :: rest) (' ' :: (w ++ tail)) = some r := by
  obtain ⟨c, w, rfl⟩ := List.exists_cons_of_ne_nil hw
  have hc : perlSpace c = false := hws c (List.mem_cons_self _ _)
  rw [List.cons_append, matchNodes, greedyPlus, if_pos (by decide)]
  refine greedyStar_run (u := []) perlSpace (by simpa using hc) ?_ (fun _ h => absurd h (List.not_mem_nil _))
  rw [matchNodes, greedyPlus, if_pos (by simp [hc])]
  exact greedyStar_run _ (fun x hx => by rw [htail x hx]; decide) h
    fun x hx => by simp [hws x (List.mem_cons_of_mem _ hx)]

theorem IsWord.perlSpace_eq_false {s : String} (h : IsWord s) : ∀ c ∈ s.data, perlSpace c = false :=
  fun c hc => by simpa using mt perlSpace_imp_isSpace (by simp [h.2 c hc])

theorem IsWord.data_ne_nil {s : String} (h : IsWord s) : s.data ≠ [] := fun e => h.1 (String.ext e)

theorem workerJoin_append (e t h : String) (z : List Char) : (workerJoin e t h).data ++ z = "kubeadm join".data ++
    spaced [[], e.data] ("--token".data ++ ' ' :: (t.data ++
      spaced [[]] ("--discovery-token-ca-cert-hash".data ++ ' ' :: (h.data ++ z)))) := by
  simp only [workerJoin, String.data_append, List.append_assoc]
  rfl

theorem masterJoin_append (e t h k : String) (z : List Char) : (masterJoin e t h k).data ++ z = "kubeadm join".data ++
    spaced [[], e.data, "--token".data, t.data, "--discovery-token-ca-cert-hash".data, h.data]
      ("--control-plane".data ++ spaced [[]] ("--certificate-key".data ++ ' ' :: (k.data ++ z))) := by
  simp only [masterJoin, workerJoin, String.data_append, List.append_assoc]
  rfl

theorem workerJoin_words (e t h : String) : (workerJoin e t h).data =
    spaced ["kubeadm".data, "join".data, e.data, "--token".data, t.data, "--discovery-token-ca-cert-hash".data]
      h.data := by
  simp only [workerJoin, String.data_append, List.append_assoc]
  rfl

/-- Every match of the master pattern holds `--control-plane`. -/
theorem controlPlane_infix_of_matches {m : List Char} (h : Matches masterPattern m) :
    "--control-plane".data <:+: m := by
  unfold masterPattern at h
  cases h with
  | lit h => cases h with
    | @lazyAny u _ _ _ h => cases h with
      | @lit _ m _ _ => exact ⟨"kubeadm join".data ++ u, m, by simp⟩

/-- `worker` is the first match of the worker pattern when that match does not
hold `--control-plane`. -/
theorem extractJoinCommands_snd_of_head? {output W : String}
    (hW : (findAllString workerPattern (sanitizeCommand output)).head? = some W)
    (hc : ¬ "--control-plane".data <:+: W.data) : (extractJoinCommands output).2 = W := by
  obtain ⟨ws, hws⟩ := List.head?_eq_some_iff.1 hW
  simp [extractJoinCommands, hws, contains, hc]

section ControlPlaneFirst

variable {e t h : String} (he : IsWord e) (ht : IsWord t) (hh : IsWord h)
include he ht hh

theorem matchNodes_workerPattern (htok : ¬ "--token".data <:+: e.data) {z : List Char}
    (hz : ∀ c ∈ z.head?, c = ' ') : matchNodes workerPattern ((workerJoin e t h).data ++ z) = some z := by
  rw [workerJoin_append, workerPattern, matchNodes_lit_append]
  refine matchNodes_lazyAny_lit (by decide) (by simp [he.newline_not_mem, htok]) ?_
  refine matchNodes_space_word ht.data_ne_nil ht.perlSpace_eq_false (by simp) ?_
  exact matchNodes_lazyAny_lit (by decide) (by simp)
    (matchNodes_space_word hh.data_ne_nil hh.perlSpace_eq_false hz rfl)

theorem matchNodes_masterPattern {k : String} (hk : IsWord k)
    (hcp : ∀ w ∈ [e, t, h], ¬ "--control-plane".data <:+: w.data) {z : List Char}
    (hz : ∀ c ∈ z.head?, c = ' ') : matchNodes masterPattern ((masterJoin e t h k).data ++ z) = some z := by
  simp only [List.mem_cons, List.mem_singleton, forall_eq_or_imp, forall_eq, List.not_mem_nil, or_false] at hcp
  rw [masterJoin_append, masterPattern, matchNodes_lit_append]
  refine matchNodes_lazyAny_lit (by decide) ?_ (matchNodes_lazyAny_lit (by decide) (by simp)
    (matchNodes_space_word hk.data_ne_nil hk.perlSpace_eq_false hz rfl))
  simp only [List.mem_cons, List.mem_singleton, forall_eq_or_imp, forall_eq, List.not_mem_nil, or_false]
  exact ⟨by decide, ⟨he.newline_not_mem, hcp.1⟩, by decide, ⟨ht.newline_not_mem, hcp.2.1⟩, by decide,
    hh.newline_not_mem, hcp.2.2⟩

end ControlPlaneFirst

/-- In `kubeadm init`'s order, the control-plane command first, both commands
come out whole, whatever follows them. `worker` is read from the control-plane
command: the worker pattern's first match is that command up to its hash. -/
theorem extractJoinCommands_control_plane_first {e t h k : String} (he : IsWord e) (ht : IsWord t) (hh : IsWord h)
    (hk : IsWord k)
    (hcp : ∀ w ∈ [e, t, h], ¬ "--control-plane".data <:+: w.data) (htok : ¬ "--token".data <:+: e.data)
    {output p z : String} (hs : sanitizeCommand output = p ++ masterJoin e t h k ++ z)
    (hz : ∀ c ∈ z.data.head?, c = ' ')
    (hp : ∀ i < p.data.length, ¬ "kubeadm join".data <+: (sanitizeCommand output).data.drop i) :
    extractJoinCommands output = (masterJoin e t h k, workerJoin e t h) := by
  have hm : (sanitizeCommand output).data = p.data ++ ((masterJoin e t h k).data ++ z.data) := by
    rw [hs]
    simp
  have hw : (sanitizeCommand output).data =
      p.data ++ ((workerJoin e t h).data ++ ((" --control-plane --certificate-key " ++ k).data ++ z.data)) := by
    rw [hm]
    simp [masterJoin]
  have hmaster : (findAllString masterPattern (sanitizeCommand output)).head? = some (masterJoin e t h k) :=
    findAllString_head?_eq hm hp (matchNodes_masterPattern he ht hh hk hcp hz)
  have hworker : (findAllString workerPattern (sanitizeCommand output)).head? = some (workerJoin e t h) :=
    findAllString_head?_eq hw hp (matchNodes_workerPattern he ht hh htok (by simp))
  have hcw : ¬ "--control-plane".data <:+: (workerJoin e t h).data := fun hc => by
    simp only [List.mem_cons, List.mem_singleton, forall_eq_or_imp, forall_eq, List.not_mem_nil, or_false] at hcp
    rw [workerJoin_words] at hc
    rcases infix_spaced (by decide) hc with ⟨w, hw, hc⟩ | hc
    · simp only [List.mem_cons, List.mem_singleton, List.not_mem_nil, or_false] at hw
      rcases hw with rfl | rfl | rfl | rfl | rfl | rfl
      all_goals first | exact absurd hc (by decide) | exact hcp.1 hc | exact hcp.2.1 hc
    · exact hcp.2.2 hc
  exact Prod.ext (by rw [extractJoinCommands_fst, hmaster]; rfl) (extractJoinCommands_snd_of_head? hworker hcw)

/-- `kubeadm init`'s output: the control-plane command, then the worker command. -/
def masterFirstOutput : String :=
  "To add a control plane:\n  kubeadm join lb:6443 --token abc.def \\\n\t--discovery-token-ca-cert-hash sha256:0a1b " ++
  "\\\n\t--control-plane --certificate-key 9f8e\n\nTo add a worker:\n  kubeadm join lb:6443 --token abc.def " ++
  "\\\n\t--discovery-token-ca-cert-hash sha256:0a1b\n"

set_option maxRecDepth 20000 in
theorem masterFirst_extracted : extractJoinCommands masterFirstOutput = (sampleMaster, sampleWorker) :=
  extractJoinCommands_control_plane_first ⟨by decide, by decide⟩ ⟨by decide, by decide⟩ ⟨by decide, by decide⟩
    ⟨by decide, by decide⟩ (by decide) (by decide) (p := "To add a control plane: ")
    (z := " To add a worker: " ++ sampleWorker) (by decide) (by decide) (by decide)

/-- On output with a worker command and no `--control-plane` anywhere, as
`kubeadm token create --print-join-command` prints, `master` is empty and
`worker` is the command. -/
theorem extractJoinCommands_worker_only {e t h : String} (he : IsWord e) (ht : IsWord t) (hh : IsWord h)
    (htok : ¬ "--token".data <:+: e.data) {output p z : String}
    (hs : sanitizeCommand output = p ++ workerJoin e t h ++ z) (hz : ∀ c ∈ z.data.head?, c = ' ')
    (hp : ∀ i < p.data.length, ¬ "kubeadm join".data <+: (sanitizeCommand output).data.drop i)
    (hno : ¬ "--control-plane".data <:+: (sanitizeCommand output).data) :
    extractJoinCommands output = ("", workerJoin e t h) := by
  have hw : (sanitizeCommand output).data = p.data ++ ((workerJoin e t h).data ++ z.data) := by
    rw [hs]
    simp
  have hnone : ∀ i, matchNodes masterPattern ((sanitizeCommand output).data.drop i) = none := fun i => by
    cases hr : matchNodes masterPattern ((sanitizeCommand output).data.drop i) with
    | none => rfl
    | some r =>
      obtain ⟨m, hdm, hm⟩ := matchNodes_sound _ hr
      have hmi : m ++ r <:+: (sanitizeCommand output).data := by
        rw [← hdm]
        exact (List.drop_suffix i _).isInfix
      exact absurd ((controlPlane_infix_of_matches hm).trans ((List.prefix_append m r).isInfix.trans hmi)) hno
  have hworker : (findAllString workerPattern (sanitizeCommand output)).head? = some (workerJoin e t h) :=
    findAllString_head?_eq hw hp (matchNodes_workerPattern he ht hh htok hz)
  refine Prod.ext ?_ (extractJoinCommands_snd_of_head? hworker fun hc => hno (hc.trans ?_))
  · rw [extractJoinCommands_fst, findAllString_head?, findLeftmost_eq_none hnone]
    rfl
  · exact ⟨p.data, z.data, by rw [hw, List.append_assoc]⟩

/-- What `kubeadm token create --print-join-command` prints. -/
def printJoinOutput : String := "kubeadm join lb:6443 --token abc.def --discovery-token-ca-cert-hash sha256:0a1b \n"

set_option maxRecDepth 20000 in
theorem printJoin_extracted : extractJoinCommands printJoinOutput = ("", sampleWorker) :=
  extractJoinCommands_worker_only ⟨by decide, by decide⟩ ⟨by decide, by decide⟩ ⟨by decide, by decide⟩
    (by decide) (p := "") (z := "") (by decide) (by decide) (fun _ h => absurd h (Nat.not_lt_zero _)) (by decide)

end KubeClipper.L4.K8s
