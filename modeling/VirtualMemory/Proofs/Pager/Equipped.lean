/-
Module: VirtualMemory.Proofs.Pager.Equipped
Purpose: A pager that has made its swap file never goes back to not having one, so that a
  request for it cannot fail any more.
Main exports:
  Pager.HasSwapFile, hasSwapFile_upheld; Pager.Equipped, Equipped.initializeSwap

Deleting the file at the end closes it, and it still counts as made.
-/
import VirtualMemory.Proofs.Pager.Upheld

namespace VirtualMemory.Pager

open VirtualMemory.Action

variable {φ : Type} {pager : Pager φ} {config : Config}

/-- Whether the swap file was made. -/
def HasSwapFile (pager : Pager φ) : Prop :=
  ∃ swap, pager.device = .inUse swap

theorem HasSwapFile.of_device {next : Pager φ} (has : pager.HasSwapFile)
    (same : next.device = pager.device) : next.HasSwapFile := by
  obtain ⟨swap, used⟩ := has
  exact ⟨swap, same.trans used⟩

section Swapping

variable [FileSystem φ]

theorem HasSwapFile.opened {name : String} {result : Except SwapError Unit}
    {device : SwapDevice φ} (has : pager.HasSwapFile)
    (opened : pager.device.opened name = (result, device)) :
    result = .ok () ∧ device = pager.device := by
  obtain ⟨swap, used⟩ := has
  rw [used] at opened ⊢
  cases opened
  exact ⟨rfl, rfl⟩

theorem Evicted.hasSwapFile {result : Except PagingError Ppn} {after : Pager φ}
    (evicted : Evicted pager result after) (has : pager.HasSwapFile) : after.HasSwapFile := by
  cases evicted with
  | refused => exact has
  | withoutFile opened => cases (has.opened opened).1
  | withoutVictim | unwritten | written => exact ⟨_, rfl⟩

/-- Nothing unmakes the swap file. -/
theorem hasSwapFile_upheld (config : Config) (made : Prop) :
    Upheld config fun pager : Pager φ => made → pager.HasSwapFile where
  pooled _ _ has := has
  pinned _ has := has
  filled _ _ has := has
  opened has opened must := (has must).of_device ((has must).opened opened).2
  reread _ _ _ _ := ⟨_, rfl⟩
  evicted _ has evicted must := evicted.hasSwapFile (has must)
  settled := by
    intro held pager pid entry contents _ has must
    obtain ⟨pool, tlbs, settled⟩ := exists_settle pager pid entry contents
    rw [settled]
    exact has must
  accessed _ _ has := has
  put := by
    intro held pager pid entry accounts has
    apply Ends.mono (putTranslation_ends accounts pid entry)
    intro result next told
    obtain ⟨tables, pool, tlbs, rfl, _⟩ := told
    exact has
  deallocated := by
    intro pager pid has must
    obtain ⟨pool, tlbs, freed⟩ := exists_deallocate pager pid
    rw [freed]
    exact has must
  started _ _ _ has := has
  terminated := by
    intro pager has
    simp only [Pager.terminate, ends_bind, ends_modify, ends_get]
    split
    · exact has
    · next swap used =>
      refine (ends_onSwap (by exact used)).mpr ?_
      exact fun _ => ⟨_, rfl⟩
  cached _ _ has := has
  changed _ _ _ has := has
  disturbed := by
    intro pager files has must
    obtain ⟨swap, used⟩ := has must
    exact ⟨_, congrArg (SwapDevice.withFiles · files) used⟩

end Swapping

/-- The books of a pager are right, and its swap file is made if it has to be. -/
structure Equipped (config : Config) (made : Prop) (pager : Pager φ) : Prop where
  accounts : ∃ held, Accounts config held pager
  hasSwapFile : made → pager.HasSwapFile

namespace Equipped

variable {made : Prop}

theorem of_standing (standing : Standing config (fun pager => made → pager.HasSwapFile) pager) :
    Equipped config made pager :=
  ⟨standing.accounts, standing.holds⟩

theorem standing (equipped : Equipped config made pager) :
    Standing config (fun pager => made → pager.HasSwapFile) pager :=
  ⟨equipped.accounts, equipped.hasSwapFile⟩

variable [FileSystem φ]

/-- Asking for the swap file ends with it, or fails, which it does not once the file was
made. -/
theorem initializeSwap (equipped : Equipped config made pager) :
    (Pager.initializeSwap : PagerAction φ Unit).Ends pager fun result next =>
      match result with
      | .ok _ => Equipped config True next
      | .error _ => Equipped config made next ∧ ¬ made := by
  obtain ⟨held, accounts⟩ := equipped.accounts
  rw [ends_initializeSwap]
  cases opened : pager.device.opened pager.config.swapFile with
  | mk result device =>
    have books : Accounts config held { pager with device := device } :=
      accounts.of_same rfl rfl rfl accounts.pins rfl
    cases result with
    | ok =>
      obtain ⟨swap, rfl⟩ := SwapDevice.inUse_of_opened opened
      exact ⟨⟨held, books⟩, fun _ => ⟨swap, rfl⟩⟩
    | error cause =>
      have unmade : ¬ made := fun must => by
        obtain ⟨swap, used⟩ := equipped.hasSwapFile must
        rw [used] at opened
        cases opened
      exact ⟨⟨⟨held, books⟩, fun must => absurd must unmade⟩, unmade⟩

end Equipped

end VirtualMemory.Pager
