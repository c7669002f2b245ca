import OrderDesk.Proofs.Validation
import OrderDesk.Order.Form

/-!
# The form check reports the first rule broken

Before a creation form reaches the catalog, its shape is checked item by item: each item's
quantity, then its instructions, then the quantity of each of its selections. The first rule
broken stops the check and is reported with its place in the form. This module lists every rule
a form breaks in that order (`OrderForm.faults`), without stopping, and states the check against
the list. The check fails with the head of the list, and succeeds exactly when the list is empty:
every item and selection quantity is at least one, and no instructions run past
`maxInstructions` characters (characters are Unicode scalar values, not bytes). A form that
passes becomes a request with the form's kind and restaurant and one line per item, in order
(`ItemForm.Carries`). Each line keeps its item's menu item, quantity and selections, and
instructions given as empty text become none.

Main statement: `toRequest_exact`.
-/

namespace OrderDesk

/-! ## Every rule a form breaks -/

/-- Whether instructions are too long: text of more than `maxInstructions` characters. -/
def instructionsTooLong : Option String → Bool
  | some text => maxInstructions < text.length
  | none => false

/-- The rules the selections of the item at position `i` break, counting selections from `j`:
    one for each selection whose quantity is below one, in order. -/
def selectionFaults (i : Nat) (sels : List Selection) (j : Nat) : List FormFault :=
  (sels.zipIdx j).filterMap fun p =>
    if p.1.quantity < 1 then some (.selectionQuantity i p.2) else none

/-- Every rule the item form at position `i` breaks, in the order they are checked: its
    quantity, its instructions, then the quantities of its selections in order. -/
def ItemForm.faults (item : ItemForm) (i : Nat) : List FormFault :=
  (if item.quantity < 1 then [.lineQuantity i] else []) ++
    (if instructionsTooLong item.instructions then [.instructionsTooLong i] else []) ++
    selectionFaults i item.selections 0

/-- Every rule the items break, counting items from `i`, item after item. -/
def itemFaults (items : List ItemForm) (i : Nat) : List FormFault :=
  (items.zipIdx i).flatMap fun p => p.1.faults p.2

/-- Every rule a creation form breaks, in the order the check meets them. -/
def OrderForm.faults (f : OrderForm) : List FormFault :=
  itemFaults f.items 0

/-- An item form that breaks no rule. -/
structure ItemForm.Fits (item : ItemForm) : Prop where
  quantity : 1 ≤ item.quantity
  instructions : ∀ text, item.instructions = some text → text.length ≤ maxInstructions
  selections : ∀ s ∈ item.selections, 1 ≤ s.quantity

/-- The line `line` carries the item form `item` over: the same menu item, quantity and
    selections, and the same instructions unless they are empty text, which become none. -/
structure ItemForm.Carries (item : ItemForm) (line : Line) : Prop where
  menuItemId : line.menuItemId = item.menuItemId
  quantity : line.quantity = item.quantity
  selections : line.selections = item.selections
  instructions : line.instructions = if item.instructions = some "" then none else item.instructions

theorem selectionFaults_cons (i : Nat) (s : Selection) (rest : List Selection) (j : Nat) :
    selectionFaults i (s :: rest) j =
      (if s.quantity < 1 then [.selectionQuantity i j] else []) ++
        selectionFaults i rest (j + 1) := by
  by_cases hq : s.quantity < 1 <;> simp [selectionFaults, List.zipIdx_cons, hq]

theorem selectionFaults_eq_nil_iff {i j : Nat} {sels : List Selection} :
    selectionFaults i sels j = [] ↔ ∀ s ∈ sels, 1 ≤ s.quantity := by
  unfold selectionFaults
  rw [List.filterMap_eq_nil_iff, List.forall_mem_zipIdx, List.forall_mem_iff_getElem]
  simp only [ite_eq_right_iff, reduceCtorEq, imp_false, not_lt]

theorem instructionsTooLong_eq_false_iff {instructions : Option String} :
    instructionsTooLong instructions = false ↔
      ∀ text, instructions = some text → text.length ≤ maxInstructions := by
  cases instructions <;> simp [instructionsTooLong]

theorem ItemForm.faults_eq_nil_iff {item : ItemForm} {i : Nat} :
    item.faults i = [] ↔ item.Fits := by
  simp only [ItemForm.faults, List.append_eq_nil_iff, selectionFaults_eq_nil_iff,
    ite_eq_right_iff, reduceCtorEq, imp_false, not_lt, Bool.not_eq_true,
    instructionsTooLong_eq_false_iff]
  exact ⟨fun ⟨⟨hq, hi⟩, hs⟩ => ⟨hq, hi, hs⟩, fun ⟨hq, hi, hs⟩ => ⟨⟨hq, hi⟩, hs⟩⟩

/-! ## The check against the list -/

/-- The check of an item form: its quantity, then its instructions, then its selections. -/
theorem ItemForm.toLine_eq (item : ItemForm) (i : Nat) :
    item.toLine i =
      if item.quantity < 1 then .error (.lineQuantity i)
      else if instructionsTooLong item.instructions then .error (.instructionsTooLong i)
      else (checkSelections i 0 item.selections).map fun _ =>
        { menuItemId := item.menuItemId, quantity := item.quantity,
          instructions := keptInstructions item.instructions, selections := item.selections } := by
  unfold ItemForm.toLine
  split
  · rfl
  · cases h : item.instructions with
    | none => rfl
    | some text =>
      by_cases hempty : text = ""
      · subst hempty
        rfl
      · by_cases hlong : maxInstructions < text.length
        · simp [keptInstructions, instructionsTooLong, hempty, hlong]
        · simp [keptInstructions, instructionsTooLong, hempty, hlong]
          rfl

theorem checkSelections_eq_error {i : Nat} {fault : FormFault} :
    ∀ {j : Nat} {sels : List Selection},
      checkSelections i j sels = .error fault ↔ (selectionFaults i sels j).head? = some fault
  | j, [] => by simp [checkSelections, selectionFaults]
  | j, s :: rest => by
    rw [selectionFaults_cons]
    unfold checkSelections
    by_cases hq : s.quantity < 1
    · simp [hq, eq_comm]
    · simp [hq, checkSelections_eq_error]

theorem ItemForm.toLine_eq_error {item : ItemForm} {i : Nat} {fault : FormFault} :
    item.toLine i = .error fault ↔ (item.faults i).head? = some fault := by
  rw [ItemForm.toLine_eq, ItemForm.faults]
  by_cases hq : item.quantity < 1
  · simp [hq]
  · by_cases hl : instructionsTooLong item.instructions
    · simp [hq, hl]
    · simp only [hq, hl, if_false, List.nil_append, Bool.false_eq_true, ← checkSelections_eq_error]
      cases checkSelections i 0 item.selections <;> simp

theorem keptInstructions_eq (instructions : Option String) :
    keptInstructions instructions = if instructions = some "" then none else instructions := by
  cases instructions with
  | none => rfl
  | some text => by_cases h : text = "" <;> simp [keptInstructions, h]

theorem ItemForm.toLine_eq_ok {item : ItemForm} {i : Nat} {line : Line}
    (h : item.toLine i = .ok line) : item.Carries line := by
  rw [ItemForm.toLine_eq] at h
  split at h
  · cases h
  split at h
  · cases h
  cases hsel : checkSelections i 0 item.selections <;> simp [hsel] at h
  subst h
  exact ⟨rfl, rfl, rfl, keptInstructions_eq _⟩

theorem itemFaults_cons (item : ItemForm) (rest : List ItemForm) (i : Nat) :
    itemFaults (item :: rest) i = item.faults i ++ itemFaults rest (i + 1) := by
  simp [itemFaults, List.zipIdx_cons]

/-- The items fail to convert with the first fault of the first item that has one: that item
    stops the check at its own first fault, and an item with none leaves it to the rest. -/
theorem itemsToLines_eq_error {fault : FormFault} :
    ∀ {i : Nat} {items : List ItemForm},
      itemsToLines i items = .error fault ↔ (itemFaults items i).head? = some fault
  | i, [] => by simp [itemsToLines, itemFaults]
  | i, item :: rest => by
    rw [itemFaults_cons, List.head?_append]
    unfold itemsToLines
    cases hline : item.toLine i with
    | error e =>
      simp [ItemForm.toLine_eq_error.mp hline, eq_comm]
    | ok line =>
      have hnone : (item.faults i).head? = none :=
        (Except.exists_ok_iff_of_error_iff fun _ => ItemForm.toLine_eq_error).mp ⟨line, hline⟩
      simp only [hnone, Option.none_or, ← itemsToLines_eq_error]
      cases itemsToLines (i + 1) rest <;> simp

theorem itemsToLines_eq_ok :
    ∀ {i : Nat} {items : List ItemForm} {lines : List Line}, itemsToLines i items = .ok lines →
      List.Forall₂ ItemForm.Carries items lines
  | i, [], lines, h => by
    simp only [itemsToLines, Except.pure_eq_ok, Except.ok.injEq] at h
    subst h
    exact .nil
  | i, item :: rest, lines, h => by
    unfold itemsToLines at h
    obtain ⟨line, hline, h⟩ := Except.bind_eq_ok.mp h
    obtain ⟨more, hmore, h⟩ := Except.bind_eq_ok.mp h
    simp only [Except.pure_eq_ok, Except.ok.injEq] at h
    subst h
    exact .cons (ItemForm.toLine_eq_ok hline) (itemsToLines_eq_ok hmore)

theorem OrderForm.faults_eq_nil_iff {f : OrderForm} :
    f.faults = [] ↔ ∀ item ∈ f.items, item.Fits := by
  rw [OrderForm.faults, itemFaults, List.flatMap_eq_nil_iff, List.forall_mem_zipIdx,
    List.forall_mem_iff_getElem]
  simp only [ItemForm.faults_eq_nil_iff]

/-- The check of a form fails with the first rule the form breaks. -/
theorem OrderForm.toRequest_eq_error {f : OrderForm} {fault : FormFault} :
    f.toRequest = .error fault ↔ f.faults.head? = some fault := by
  rw [OrderForm.faults, ← itemsToLines_eq_error]
  unfold OrderForm.toRequest
  cases itemsToLines 0 f.items <;> simp

/-- A request the check of a form gives keeps the form's kind and restaurant and carries each
    item over to a line, in order. -/
theorem OrderForm.toRequest_eq_ok {f : OrderForm} {req : OrderRequest}
    (h : f.toRequest = .ok req) :
    req.orderType = f.orderType ∧ req.restaurantId = f.restaurantId ∧
      List.Forall₂ ItemForm.Carries f.items req.lines := by
  unfold OrderForm.toRequest at h
  obtain ⟨lines, hlines, h⟩ := Except.bind_eq_ok.mp h
  simp only [Except.pure_eq_ok, Except.ok.injEq] at h
  subst h
  exact ⟨rfl, rfl, itemsToLines_eq_ok hlines⟩

/-- The check of a creation form succeeds exactly when every item and selection quantity is at
    least one and no instructions run past `maxInstructions` characters; the request then keeps
    the form's kind and restaurant and carries each item over to a line, in order. Otherwise the
    check fails with the first rule broken, walking the items in order and, within an item, its
    quantity, its instructions, then its selections in order. -/
theorem toRequest_exact (f : OrderForm) :
    ((∃ req, f.toRequest = .ok req) ↔ ∀ item ∈ f.items, item.Fits) ∧
    (∀ req, f.toRequest = .ok req →
      req.orderType = f.orderType ∧ req.restaurantId = f.restaurantId ∧
        List.Forall₂ ItemForm.Carries f.items req.lines) ∧
    (∀ fault, f.toRequest = .error fault ↔ f.faults.head? = some fault) := by
  refine ⟨?_, fun _ => OrderForm.toRequest_eq_ok, fun _ => OrderForm.toRequest_eq_error⟩
  rw [← OrderForm.faults_eq_nil_iff, ← List.head?_eq_none_iff]
  exact Except.exists_ok_iff_of_error_iff fun _ => OrderForm.toRequest_eq_error

end OrderDesk
