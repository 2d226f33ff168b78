import Mathlib.Data.List.Basic
import Tollgate.Proofs.RuleRuns

namespace Tollgate

namespace Guest

def Limits.Within (l : Limits) (ceiling : Nat) : Prop :=
  l.least ≤ ceiling ∧ ∀ most, l.most = some most → most ≤ ceiling

namespace Module

def exportedIndex? (m : Module) (e : String × Export) : Option Nat :=
  match e.2 with
  | .memory index => if index < m.allMemories.length then some index else none
  | _ => none

-- The number of the memory that is declared to the outside.
def seenMemory? (m : Module) : Option Nat :=
  if m.importedMemories = [] then m.exports.findSome? m.exportedIndex?
  else some (m.importedMemories.length - 1)

def importOrigins (m : Module) : List (String × String) := m.imports.map fun i => (i.space, i.name)

def setImported (l : Limits) : Nat → List Import → List Import
  | _, [] => []
  | index, i :: rest =>
    match i.memory?, index with
    | some _, 0 => { i with type := .memory l } :: rest
    | some _, index + 1 => i :: setImported l index rest
    | none, index => i :: setImported l index rest

def withMemory (m : Module) (index : Nat) (l : Limits) : Module :=
  if index < m.importedMemories.length then { m with imports := setImported l index m.imports }
  else { m with memories := m.memories.set (index - m.importedMemories.length) l }

variable {m : Module}

theorem setImported_memories (l : Limits) (index : Nat) (imports : List Import) :
    (setImported l index imports).filterMap Import.memory? =
      (imports.filterMap Import.memory?).set index l := by
  induction imports generalizing index with
  | nil => rfl
  | cons i rest ih =>
    unfold setImported
    cases given : i.memory? with
    | none => simp [given, ih]
    | some old =>
      cases index with
      | zero =>
        rw [List.filterMap_cons, List.filterMap_cons, given]
        rfl
      | succ index => simp [given, ih]

theorem setImported_origins (l : Limits) (index : Nat) (imports : List Import) :
    (setImported l index imports).map (fun i => (i.space, i.name)) =
      imports.map fun i => (i.space, i.name) := by
  induction imports generalizing index with
  | nil => rfl
  | cons i rest ih =>
    unfold setImported
    split
    · rfl
    · rw [List.map_cons, List.map_cons, ih]
    · rw [List.map_cons, List.map_cons, ih]

theorem withMemory_origins (m : Module) (index : Nat) (l : Limits) :
    (m.withMemory index l).importOrigins = m.importOrigins := by
  unfold withMemory
  split
  · exact setImported_origins l index m.imports
  · rfl

theorem withMemory_exports (m : Module) (index : Nat) (l : Limits) :
    (m.withMemory index l).exports = m.exports := by
  unfold withMemory
  split <;> rfl

theorem withMemory_imported (m : Module) (index : Nat) (l : Limits) :
    (m.withMemory index l).importedMemories = m.importedMemories.set index l := by
  unfold withMemory
  split
  · exact setImported_memories l index m.imports
  · rename_i beyond
    exact (List.set_eq_of_length_le (Nat.le_of_not_lt beyond)).symm

theorem withMemory_all (m : Module) (index : Nat) (l : Limits) :
    (m.withMemory index l).allMemories = m.allMemories.set index l := by
  unfold allMemories
  rw [withMemory_imported, List.set_append]
  unfold withMemory
  split
  · rfl
  · rename_i beyond
    rw [List.set_eq_of_length_le (Nat.le_of_not_lt beyond)]

theorem exportedIndex_lt {e : String × Export} {index : Nat}
    (given : m.exportedIndex? e = some index) : index < m.allMemories.length := by
  unfold exportedIndex? at given
  split at given
  · split at given
    · rename_i inside
      cases given
      exact inside
    · cases given
  · cases given

theorem findSome_index (m : Module) (exports : List (String × Export)) :
    (exports.findSome? fun e => match e.2 with
      | .memory index => m.allMemories[index]?
      | _ => none) = (exports.findSome? m.exportedIndex?).bind (m.allMemories[·]?) := by
  induction exports with
  | nil => rfl
  | cons e rest ih =>
    rw [List.findSome?_cons, List.findSome?_cons, ih]
    unfold exportedIndex?
    cases e.2 with
    | memory index =>
      dsimp only
      by_cases inside : index < m.allMemories.length
      · rw [if_pos inside, List.getElem?_eq_getElem inside]
        simp [inside]
      · -- An export of a memory that there is not is skipped by both searches.
        rw [if_neg inside, List.getElem?_eq_none (Nat.le_of_not_lt inside)]
    | function index => rfl
    | table index => rfl
    | global index => rfl

theorem declaredMemory_seen (m : Module) :
    m.declaredMemory? = m.seenMemory?.bind (m.allMemories[·]?) := by
  unfold declaredMemory? seenMemory?
  by_cases alone : m.importedMemories = []
  · rw [if_pos alone, alone]
    unfold exportedMemories
    rw [List.head?_filterMap]
    exact findSome_index m m.exports
  · have last := List.length_pos_iff.mpr alone
    rw [if_neg alone, Option.bind_some]
    unfold allMemories
    rw [List.getElem?_append_left (by omega), ← List.getLast?_eq_getElem?,
      List.getLast?_eq_some_getLast alone]
    rfl

theorem seenMemory_sole (few : m.allMemories.length ≤ 1)
    (shown : m.importedMemories ≠ [] ∨ ∃ name, (name, .memory 0) ∈ m.exports) {index : Nat}
    (inside : index < m.allMemories.length) : m.seenMemory? = some index := by
  have first : index = 0 := by omega
  subst first
  unfold seenMemory?
  by_cases alone : m.importedMemories = []
  · rw [if_pos alone]
    obtain ⟨name, exported⟩ := shown.resolve_left (not_not_intro alone)
    have given : m.exportedIndex? (name, .memory 0) = some 0 := if_pos inside
    cases found : m.exports.findSome? m.exportedIndex? with
    | none =>
      rw [List.findSome?_eq_none_iff] at found
      cases given.symm.trans (found _ exported)
    | some other =>
      -- An earlier export may come first, but there is no other memory that it could stand for.
      obtain ⟨e, _, here⟩ := List.exists_of_findSome?_eq_some found
      have below := exportedIndex_lt here
      have same : other = 0 := by omega
      rw [same]
  · have last := List.length_pos_iff.mpr alone
    have less : m.importedMemories.length ≤ m.allMemories.length := by
      simp [allMemories]
    have one : m.importedMemories.length - 1 = 0 := by omega
    rw [if_neg alone, one]

theorem seenMemory_withMemory (m : Module) (index : Nat) (l : Limits) :
    (m.withMemory index l).seenMemory? = m.seenMemory? := by
  unfold seenMemory? exportedIndex?
  rw [withMemory_imported, withMemory_all, withMemory_exports]
  simp only [List.set_eq_nil_iff, List.length_set]

theorem declaredMemory_unseen {index : Nat} (l : Limits) (unseen : m.seenMemory? ≠ some index) :
    (m.withMemory index l).declaredMemory? = m.declaredMemory? := by
  rw [declaredMemory_seen, declaredMemory_seen, seenMemory_withMemory, withMemory_all]
  cases place : m.seenMemory? with
  | none => rfl
  | some seen =>
    have other : index ≠ seen := by
      rintro rfl
      exact unseen place
    rw [Option.bind_some, Option.bind_some, List.getElem?_set_ne other]

end Module

end Guest

namespace Rule

-- The rule on imports looks at where they come from.
theorem importRule_eq (c : Contract) (p : Policy) :
    importRule.check c p =
      match c.module.importOrigins.find? fun o => !p.allowedImports.contains o.1 with
      | some o =>
        let text := o.1 ++ "::" ++ o.2
        .error s!"import {text} is not allowed"
      | none => .ok () := by
  have search : (c.module.importOrigins.find? fun o => !p.allowedImports.contains o.1) =
      (c.module.imports.find? fun i => !p.allowedImports.contains i.space).map
        fun i => (i.space, i.name) := List.find?_map
  unfold importRule
  dsimp only
  rw [search]
  cases c.module.imports.find? fun i => !p.allowedImports.contains i.space <;> rfl

theorem memoryRule_ok_iff {c : Contract} {p : Policy} : memoryRule.check c p = .ok () ↔
    ∀ l, c.module.declaredMemory? = some l → l.Within p.maxModuleMemoryPages := by
  unfold memoryRule Guest.Limits.Within
  dsimp only
  cases c.module.declaredMemory? with
  | none => simp
  | some l =>
    obtain ⟨least, most⟩ := l
    by_cases beyond : p.maxModuleMemoryPages < least
    · simp [beyond, Nat.not_le.mpr beyond]
    · cases most with
      | none => simp [beyond, Nat.le_of_not_lt beyond]
      | some most => simp [beyond, Nat.le_of_not_lt beyond]

end Rule

namespace Guard

variable {g : Guard} {c : Contract}

theorem failuresOf_eq_nil_iff : g.failuresOf c = [] ↔
    ∀ r ∈ g.rules, r.enabled = true → r.check c g.policy = .ok () := by
  unfold failuresOf failuresIn
  rw [List.filterMap_eq_nil_iff]
  refine ⟨fun clean r member on => ?_, fun passes r member => ?_⟩
  · have outcome := clean r (List.mem_filter.mpr ⟨member, on⟩)
    split at outcome
    · assumption
    · cases outcome
  · obtain ⟨listed, on⟩ := List.mem_filter.mp member
    rw [passes r listed on]

theorem validateModule_ok_iff (enabled : g.policy.enableValidation = true)
    (strict : g.policy.strictMode = true) :
    (∃ report, (g.validateModule c).2 = .ok report) ↔
      ∀ r ∈ g.rules, r.enabled = true → r.check c g.policy = .ok () := by
  rw [← failuresOf_eq_nil_iff]
  cases failed : g.failuresOf c with
  | nil => simp [validateModule_reported enabled (.inr failed)]
  | cons f rest => simp [validateModule_stopped enabled strict failed]

theorem validateModule_congr {other : Contract} (hash : other.hash = c.hash)
    (alike : ∀ r ∈ g.rules, r.check other g.policy = r.check c g.policy) :
    g.validateModule other = g.validateModule c := by
  unfold validateModule
  dsimp only
  rw [hash, runRules_congr alike]

theorem validateModule_unseen (rules : g.rules = Rule.defaults) {index : Nat} (l : Guest.Limits)
    (unseen : c.module.seenMemory? ≠ some index) :
    g.validateModule { c with module := c.module.withMemory index l } = g.validateModule c := by
  refine validateModule_congr rfl fun r member => ?_
  rw [rules] at member
  simp only [Rule.defaults, List.mem_cons, List.not_mem_nil, or_false] at member
  rcases member with rfl | rfl | rfl
  · unfold Rule.structureRule Guest.Module.exportedFunctions
    dsimp only
    rw [Guest.Module.withMemory_exports]
  · rw [Rule.importRule_eq, Rule.importRule_eq, Guest.Module.withMemory_origins]
  · unfold Rule.memoryRule
    dsimp only
    rw [Guest.Module.declaredMemory_unseen l unseen]

-- What a module that passes has shown of its memories.
structure Vetted (g : Guard) (m : Guest.Module) : Prop where
  seen : ∀ index l, m.seenMemory? = some index → m.allMemories[index]? = some l →
    l.Within g.policy.maxModuleMemoryPages
  sole : m.allMemories.length ≤ 1 →
    (m.importedMemories ≠ [] ∨ ∃ name, (name, .memory 0) ∈ m.exports) →
    ∀ l ∈ m.allMemories, l.Within g.policy.maxModuleMemoryPages

theorem vetted_of_passed (enabled : g.policy.enableValidation = true)
    (strict : g.policy.strictMode = true) (ruled : Rule.memoryRule ∈ g.rules)
    (passed : ∃ report, (g.validateModule c).2 = .ok report) : Vetted g c.module := by
  have met := (validateModule_ok_iff enabled strict).mp passed Rule.memoryRule ruled rfl
  rw [Rule.memoryRule_ok_iff, Guest.Module.declaredMemory_seen] at met
  have seen : ∀ index l, c.module.seenMemory? = some index → c.module.allMemories[index]? = some l →
      l.Within g.policy.maxModuleMemoryPages := by
    intro index l place found
    refine met l ?_
    rw [place]
    exact found
  refine ⟨seen, fun few shown l member => ?_⟩
  obtain ⟨index, inside, found⟩ := List.mem_iff_getElem.mp member
  refine seen index l (Guest.Module.seenMemory_sole few shown inside) ?_
  rw [List.getElem?_eq_getElem inside, found]

-- The second part is about the default rules alone: they pass over every memory that is not the one
-- they see.
theorem memories_vetted {g : Guard} (enabled : g.policy.enableValidation = true)
    (strict : g.policy.strictMode = true) (ruled : ∀ r ∈ Rule.defaults, r ∈ g.rules)
    (c : Contract) :
    ((∃ report, (g.validateModule c).2 = .ok report) → Vetted g c.module) ∧
      (g.rules = Rule.defaults → ∀ index l, c.module.seenMemory? ≠ some index →
        g.validateModule { c with module := c.module.withMemory index l } =
          g.validateModule c) := by
  constructor
  · intro passed
    exact vetted_of_passed enabled strict (ruled _ (by simp [Rule.defaults])) passed
  · intro rules index l unseen
    exact validateModule_unseen rules l unseen

def openModule : Contract :=
  ⟨"open", 0, { functions := [⟨⟨[], []⟩, [], .done⟩]
                memories := [⟨2, some 4⟩]
                exports := [("run", .function 0), ("memory", .memory 0)] }⟩

theorem memories_vetted_open :
    (∃ report, ((ofPolicy {}).validateModule openModule).2 = .ok report) ∧
      Vetted (ofPolicy {}) openModule.module := by
  have passed : ∃ report, ((ofPolicy {}).validateModule openModule).2 = .ok report := ⟨_, rfl⟩
  have ruled : ∀ r ∈ Rule.defaults, r ∈ (ofPolicy {}).rules := fun _ member => member
  exact ⟨passed, (memories_vetted rfl rfl ruled openModule).1 passed⟩

-- A module that exports a function, and keeps to itself a memory of up to 2000 pages.
def hiddenMemory : List UInt8 :=
  [0x00, 0x61, 0x73, 0x6D, 0x01, 0x00, 0x00, 0x00, 0x01, 0x04, 0x01, 0x60, 0x00, 0x00, 0x03, 0x02,
    0x01, 0x00, 0x05, 0x05, 0x01, 0x01, 0x01, 0xD0, 0x0F, 0x07, 0x07, 0x01, 0x03, 0x72, 0x75,
    0x6E, 0x00, 0x00, 0x0A, 0x04, 0x01, 0x02, 0x00, 0x0B]

theorem hiddenMemory_passed :
    (ofPolicy {}).policy.enableValidation = true ∧ (ofPolicy {}).policy.strictMode = true ∧
      (ofPolicy {}).rules = Rule.defaults ∧ (ofPolicy {}).policy.maxModuleMemoryPages = 1024 ∧
      (Contract.ofBytes Guest.Module.load {} hiddenMemory).toOption.map (fun c => (c.module.allMemories,
        ((ofPolicy {}).validateModule c).2.isOk)) = some ([⟨1, some 2000⟩], true) :=
  ⟨rfl, rfl, rfl, rfl, by decide +kernel⟩

end Guard

end Tollgate
