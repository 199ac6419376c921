/-
# `CortxCsm.Lib.JsonText` — reading a JSON text

`loads` reads a text as `json.loads` does: strictly (a string has no control characters), with
`NaN` and the infinities, with the last of several members of one name.  It is a machine that
takes one character after the other and keeps the arrays and objects that are open on a stack.
A string is a list of code points, as a text can name half of a surrogate pair alone.

**What a value costs.**  A text pays one for each quotation mark, backslash and `u` in it.  A
value costs what its strings do: two for the marks around it, and for each of its characters

    `"` and `\`                    2, as it has to be written with a backslash
    a control character            1, for the same reason
    `u`                            1
    any other character            0

However a value is written, the text pays for it (`weight_le_pay`): what comes of one
character is paid by it (`cost_step`).  So a text has no room for strings that it was not
written for.

**Plain strings.**  A string of characters that need no backslash is read as it is
(`run_plain`).
-/
import CortxCsm.Lib.Percent
import Mathlib.Algebra.BigOperators.Group.List.Basic
import Mathlib.Algebra.GroupWithZero.Nat

namespace JsonText

/-! ## Values -/

/-- Code points. -/
abbrev Text := List Nat

inductive Value
  | null
  | bool (b : Bool)
  | number (text : List Char)
  | str (text : Text)
  | arr (items : List Value)
  | obj (members : List (Text × Value))

def codes (s : String) : Text := s.toList.map Char.toNat

/-- `members[name] = value`. -/
def setMember (name : Text) (value : Value) : List (Text × Value) → List (Text × Value)
  | [] => [(name, value)]
  | member :: members =>
      if member.1 = name then (name, value) :: members
      else member :: setMember name value members

/-- `members[name]`. -/
def member? (name : Text) (members : List (Text × Value)) : Option Value :=
  (members.find? fun member => member.1 = name).map Prod.snd

/-! ## The machine -/

/-- Where a string is after a backslash. -/
inductive Escape
  | none
  | backslash
  | hex (missing value : Nat)

inductive NumberState
  | minus
  | zero
  | integer
  | point
  | fraction
  | exponent
  | sign
  | power

/-- What is open: an array, an object, an object with the name of a member. -/
inductive Frame
  | array (items : List Value)
  | object (members : List (Text × Value))
  | member (members : List (Text × Value)) (name : Text)

/-- What comes next; `opened` is right after the bracket. -/
inductive Mode
  | value (opened : Bool)
  | name (opened : Bool)
  | colon (name : Text)
  | separator
  | text (isName : Bool) (units : Text) (escape : Escape)
  | word (rest : List Char) (result : Value)
  | number (state : NumberState) (text : List Char)
  | done (result : Value)

structure State where
  mode : Mode
  stack : List Frame

def start : State := ⟨.value false, []⟩

def isBlank (c : Char) : Bool := c = ' ' ∨ c = '\t' ∨ c = '\n' ∨ c = '\r'

/-- A value is complete. -/
def complete (value : Value) : List Frame → State
  | [] => ⟨.done value, []⟩
  | .array items :: stack => ⟨.separator, .array (items ++ [value]) :: stack⟩
  | .object members :: stack => ⟨.separator, .object members :: stack⟩
  | .member members name :: stack => ⟨.separator, .object (setMember name value members) :: stack⟩

/-- The surrogate pairs, as the characters that they stand for. -/
def joinPairs : Text → Text
  | high :: low :: units =>
      if (0xD800 ≤ high ∧ high < 0xDC00) ∧ 0xDC00 ≤ low ∧ low < 0xE000 then
        (0x10000 + (high - 0xD800) * 0x400 + (low - 0xDC00)) :: joinPairs units
      else high :: joinPairs (low :: units)
  | units => units

/-- A string is complete. -/
def closeText (isName : Bool) (units : Text) (stack : List Frame) : State :=
  if isName then ⟨.colon (joinPairs units), stack⟩ else complete (.str (joinPairs units)) stack

/-- What a letter after a backslash stands for. -/
def escaped (c : Char) : Option Nat :=
  match c with
  | '"' => some 34
  | '\\' => some 92
  | '/' => some 47
  | 'b' => some 8
  | 'f' => some 12
  | 'n' => some 10
  | 'r' => some 13
  | 't' => some 9
  | _ => none

def stepText (isName : Bool) (units : Text) (stack : List Frame) (c : Char) :
    Escape → Option State
  | .none =>
      if c = '"' then some (closeText isName units stack)
      else if c = '\\' then some ⟨.text isName units .backslash, stack⟩
      else if c.toNat < 0x20 then none
      else some ⟨.text isName (units ++ [c.toNat]) .none, stack⟩
  | .backslash =>
      if c = 'u' then some ⟨.text isName units (.hex 4 0), stack⟩
      else (escaped c).map fun code => ⟨.text isName (units ++ [code]) .none, stack⟩
  | .hex missing value =>
      (Percent.hexValue c).map fun digit =>
        if missing = 1 then ⟨.text isName (units ++ [16 * value + digit]) .none, stack⟩
        else ⟨.text isName units (.hex (missing - 1) (16 * value + digit)), stack⟩

/-- The rest of a word, by its first letter. -/
def wordOf (c : Char) : Option (List Char × Value) :=
  match c with
  | 'n' => some ("ull".toList, .null)
  | 't' => some ("rue".toList, .bool true)
  | 'f' => some ("alse".toList, .bool false)
  | 'N' => some ("aN".toList, .number "NaN".toList)
  | 'I' => some ("nfinity".toList, .number "Infinity".toList)
  | _ => none

def numberOf (c : Char) : Option NumberState :=
  if c = '-' then some .minus
  else if c = '0' then some .zero
  else if c.isDigit then some .integer
  else none

/-- `]`. -/
def closeArray : List Frame → Option State
  | .array items :: stack => some (complete (.arr items) stack)
  | _ => none

/-- `}`. -/
def closeObject : List Frame → Option State
  | .object members :: stack => some (complete (.obj members) stack)
  | _ => none

def stepValue (opened : Bool) (stack : List Frame) (c : Char) : Option State :=
  if isBlank c then some ⟨.value opened, stack⟩
  else if c = '"' then some ⟨.text false [] .none, stack⟩
  else if c = '\x7b' then some ⟨.name true, .object [] :: stack⟩
  else if c = '[' then some ⟨.value true, .array [] :: stack⟩
  else if c = ']' then if opened then closeArray stack else none
  else match wordOf c with
    | some (rest, result) => some ⟨.word rest result, stack⟩
    | none => (numberOf c).map fun state => ⟨.number state [c], stack⟩

def stepName (opened : Bool) (stack : List Frame) (c : Char) : Option State :=
  if isBlank c then some ⟨.name opened, stack⟩
  else if c = '"' then some ⟨.text true [] .none, stack⟩
  else if c = '\x7d' then if opened then closeObject stack else none
  else none

def stepColon (name : Text) (stack : List Frame) (c : Char) : Option State :=
  if isBlank c then some ⟨.colon name, stack⟩
  else if c = ':' then
    match stack with
    | .object members :: stack => some ⟨.value false, .member members name :: stack⟩
    | _ => none
  else none

def stepSeparator (stack : List Frame) (c : Char) : Option State :=
  if isBlank c then some ⟨.separator, stack⟩
  else if c = ',' then
    match stack with
    | .array _ :: _ => some ⟨.value false, stack⟩
    | .object _ :: _ => some ⟨.name false, stack⟩
    | _ => none
  else if c = ']' then closeArray stack
  else if c = '\x7d' then closeObject stack
  else none

def stepWord (rest : List Char) (result : Value) (stack : List Frame) (c : Char) :
    Option State :=
  match rest with
  | [] => none
  | [last] => if c = last then some (complete result stack) else none
  | next :: rest => if c = next then some ⟨.word rest result, stack⟩ else none

/-- Whether a number can go on with the character. -/
def NumberState.next (state : NumberState) (c : Char) : Option NumberState :=
  let digit := c.isDigit
  let e : Bool := c = 'e' ∨ c = 'E'
  match state with
  | .minus => if c = '0' then some .zero else if digit then some .integer else none
  | .zero => if c = '.' then some .point else if e then some .exponent else none
  | .integer =>
      if digit then some .integer
      else if c = '.' then some .point
      else if e then some .exponent
      else none
  | .point => if digit then some .fraction else none
  | .fraction => if digit then some .fraction else if e then some .exponent else none
  | .exponent =>
      if digit then some .power else if c = '+' ∨ c = '-' then some .sign else none
  | .sign => if digit then some .power else none
  | .power => if digit then some .power else none

/-- Whether a number can end. -/
def NumberState.accepts : NumberState → Bool
  | .zero | .integer | .fraction | .power => true
  | .minus | .point | .exponent | .sign => false

/-- After a value. -/
def stepAfter (s : State) (c : Char) : Option State :=
  match s.mode with
  | .separator => stepSeparator s.stack c
  | .done result => if isBlank c then some ⟨.done result, s.stack⟩ else none
  | _ => none

def stepNumber (state : NumberState) (text : List Char) (stack : List Frame) (c : Char) :
    Option State :=
  match state.next c with
  | some state => some ⟨.number state (text ++ [c]), stack⟩
  | none =>
      if state.accepts then stepAfter (complete (.number text) stack) c
      else match state with
        | .minus =>
            if c = 'I' then some ⟨.word "nfinity".toList (.number "-Infinity".toList), stack⟩
            else none
        | _ => none

def step (s : State) (c : Char) : Option State :=
  match s.mode with
  | .value opened => stepValue opened s.stack c
  | .name opened => stepName opened s.stack c
  | .colon name => stepColon name s.stack c
  | .separator => stepAfter s c
  | .text isName units escape => stepText isName units s.stack c escape
  | .word rest result => stepWord rest result s.stack c
  | .number state text => stepNumber state text s.stack c
  | .done _ => stepAfter s c

def run (s : State) : List Char → Option State
  | [] => some s
  | c :: cs => (step s c).bind fun s' => run s' cs

/-- The end of the text. -/
def finish (s : State) : Option Value :=
  match s.mode with
  | .done result => some result
  | .number state text =>
      if state.accepts then
        match (complete (.number text) s.stack).mode with
        | .done result => some result
        | _ => none
      else none
  | _ => none

/-- `json.loads(text)`, or `none` for a `JSONDecodeError`. -/
def loads (text : String) : Option Value := (run start text.toList).bind finish

/-! ## What a value costs -/

def cost (code : Nat) : Nat :=
  if code = 34 ∨ code = 92 then 2 else if code < 32 ∨ code = 117 then 1 else 0

/-- What a character of the text pays. -/
def pay (c : Char) : Nat := if c = '"' ∨ c = '\\' ∨ c = 'u' then 1 else 0

def textCost (text : Text) : Nat := (text.map cost).sum

def payAll (cs : List Char) : Nat := (cs.map pay).sum

mutual

def Value.weight : Value → Nat
  | .null => 0
  | .bool _ => 0
  | .number _ => 0
  | .str text => 2 + textCost text
  | .arr items => itemsWeight items
  | .obj members => membersWeight members

def itemsWeight : List Value → Nat
  | [] => 0
  | value :: items => value.weight + itemsWeight items

def membersWeight : List (Text × Value) → Nat
  | [] => 0
  | (name, value) :: members => 2 + textCost name + value.weight + membersWeight members

end

def Frame.weight : Frame → Nat
  | .array items => itemsWeight items
  | .object members => membersWeight members
  | .member members name => membersWeight members + (2 + textCost name)

def Escape.weight : Escape → Nat
  | .none => 0
  | .backslash => 1
  | .hex _ _ => 2

def Mode.weight : Mode → Nat
  | .value _ => 0
  | .name _ => 0
  | .colon key => 2 + textCost key
  | .separator => 0
  | .text _ units escape => 1 + textCost units + escape.weight
  | .word _ result => result.weight
  | .number _ _ => 0
  | .done result => result.weight

def stackWeight (stack : List Frame) : Nat := (stack.map Frame.weight).sum

def State.weight (s : State) : Nat := s.mode.weight + stackWeight s.stack

section Weight

theorem textCost_append (a b : Text) : textCost (a ++ b) = textCost a + textCost b := by
  rw [textCost, List.map_append, List.sum_append]
  rfl

theorem textCost_cons (code : Nat) (text : Text) :
    textCost (code :: text) = cost code + textCost text := rfl

theorem payAll_append (a b : List Char) : payAll (a ++ b) = payAll a + payAll b := by
  rw [payAll, List.map_append, List.sum_append]
  rfl

theorem cost_le (code : Nat) : cost code ≤ 2 := by
  unfold cost
  split
  · exact Nat.le_refl 2
  · split
    · exact Nat.le_succ 1
    · exact Nat.zero_le 2

theorem itemsWeight_concat : ∀ (items : List Value) (value : Value),
    itemsWeight (items ++ [value]) = itemsWeight items + value.weight
  | [], value => by simp [itemsWeight]
  | item :: items, value => by
      rw [List.cons_append, itemsWeight, itemsWeight_concat items value, itemsWeight]
      omega

/-- A member that takes the place of another one leaves its cost out. -/
theorem membersWeight_setMember (name : Text) (value : Value) :
    ∀ members : List (Text × Value), membersWeight (setMember name value members) ≤
      membersWeight members + (2 + textCost name + value.weight)
  | [] => by simp [setMember, membersWeight]
  | (other, old) :: members => by
      unfold setMember
      split
      · rw [membersWeight, membersWeight]
        omega
      · have ih := membersWeight_setMember name value members
        rw [membersWeight, membersWeight]
        omega

theorem weight_complete (value : Value) (stack : List Frame) :
    (complete value stack).weight ≤ value.weight + stackWeight stack := by
  match stack with
  | [] => exact Nat.le_refl _
  | .array items :: stack =>
      show 0 + (itemsWeight (items ++ [value]) + stackWeight stack) ≤
        value.weight + (itemsWeight items + stackWeight stack)
      rw [itemsWeight_concat]
      omega
  | .object members :: stack =>
      show 0 + (membersWeight members + stackWeight stack) ≤
        value.weight + (membersWeight members + stackWeight stack)
      omega
  | .member members name :: stack =>
      have hset := membersWeight_setMember name value members
      show 0 + (membersWeight (setMember name value members) + stackWeight stack) ≤
        value.weight + (membersWeight members + (2 + textCost name) + stackWeight stack)
      omega

/-- A pair is one character, which costs nothing. -/
theorem textCost_joinPairs : ∀ units : Text, textCost (joinPairs units) ≤ textCost units
  | [] => Nat.le_refl _
  | [_] => Nat.le_refl _
  | high :: low :: units => by
      unfold joinPairs
      split
      · rename_i hpair
        have ih := textCost_joinPairs units
        have hcost : cost (0x10000 + (high - 0xD800) * 0x400 + (low - 0xDC00)) = 0 := by
          unfold cost
          rw [if_neg (by omega), if_neg (by omega)]
        rw [textCost_cons, textCost_cons, textCost_cons, hcost]
        omega
      · have ih := textCost_joinPairs (low :: units)
        rw [textCost_cons, textCost_cons high]
        omega

theorem weight_closeText (isName : Bool) (units : Text) (stack : List Frame) :
    (closeText isName units stack).weight ≤ 2 + textCost units + stackWeight stack := by
  have hjoin := textCost_joinPairs units
  unfold closeText
  split
  · show 2 + textCost (joinPairs units) + stackWeight stack ≤ _
    omega
  · have hcomplete := weight_complete (.str (joinPairs units)) stack
    rw [Value.weight] at hcomplete
    omega

theorem weight_mk (mode : Mode) (stack : List Frame) :
    (State.mk mode stack).weight = mode.weight + stackWeight stack := rfl

/-! ## One character -/

/-- A character that needs no backslash is paid by itself. -/
theorem cost_plain {c : Char} (hquote : c ≠ '"') (hbackslash : c ≠ '\\')
    (hcontrol : ¬ c.toNat < 0x20) : cost c.toNat = pay c := by
  have hcode : ∀ {d : Char}, c ≠ d → c.toNat ≠ d.toNat := by
    intro d hne heq
    exact hne (Char.toNat_inj.mp heq)
  have hspecial : ¬ (c.toNat = 34 ∨ c.toNat = 92) := by
    rintro (heq | heq)
    · exact hcode hquote heq
    · exact hcode hbackslash heq
  by_cases hu : c = 'u'
  · subst hu
    rfl
  · have hnone : ¬ (c.toNat < 32 ∨ c.toNat = 117) := by
      rintro (hlt | heq)
      · exact hcontrol hlt
      · exact hcode hu heq
    have hpay : ¬ (c = '"' ∨ c = '\\' ∨ c = 'u') := by
      rintro (heq | heq | heq)
      · exact hquote heq
      · exact hbackslash heq
      · exact hu heq
    rw [cost, if_neg hspecial, if_neg hnone, pay, if_neg hpay]

theorem cost_escaped {c : Char} {code : Nat} (h : escaped c = some code) :
    cost code ≤ 1 + pay c := by
  unfold escaped at h
  split at h <;> cases h <;> decide

theorem weight_stepText {isName : Bool} {units : Text} {stack : List Frame} {c : Char}
    {escape : Escape} {s : State} (h : stepText isName units stack c escape = some s) :
    s.weight ≤ 1 + textCost units + escape.weight + stackWeight stack + pay c := by
  have hunit : ∀ code : Nat, textCost (units ++ [code]) = textCost units + cost code :=
    fun code => textCost_append units [code]
  cases escape with
  | none =>
      rw [stepText] at h
      split at h
      · rename_i hc
        subst hc
        cases h
        have hclose := weight_closeText isName units stack
        have hpay : pay '"' = 1 := rfl
        show _ ≤ 1 + textCost units + 0 + stackWeight stack + pay '"'
        omega
      · rename_i hquote
        split at h
        · rename_i hc
          subst hc
          cases h
          show 1 + textCost units + 1 + stackWeight stack ≤
            1 + textCost units + 0 + stackWeight stack + 1
          omega
        · rename_i hbackslash
          split at h
          · cases h
          · rename_i hcontrol
            cases h
            rw [weight_mk, Mode.weight, hunit, cost_plain hquote hbackslash hcontrol]
            omega
  | backslash =>
      rw [stepText] at h
      split at h
      · rename_i hc
        subst hc
        cases h
        show 1 + textCost units + 2 + stackWeight stack ≤
          1 + textCost units + 1 + stackWeight stack + 1
        omega
      · obtain ⟨code, hcode, rfl⟩ := Option.map_eq_some_iff.mp h
        have hcost := cost_escaped hcode
        rw [weight_mk, Mode.weight, hunit]
        show 1 + (textCost units + cost code) + 0 + stackWeight stack ≤
          1 + textCost units + 1 + stackWeight stack + pay c
        omega
  | hex missing value =>
      rw [stepText] at h
      obtain ⟨digit, -, rfl⟩ := Option.map_eq_some_iff.mp h
      have hcost := cost_le (16 * value + digit)
      split
      · rw [weight_mk, Mode.weight, hunit]
        show 1 + (textCost units + cost (16 * value + digit)) + 0 + stackWeight stack ≤
          1 + textCost units + 2 + stackWeight stack + pay c
        omega
      · show 1 + textCost units + 2 + stackWeight stack ≤
          1 + textCost units + 2 + stackWeight stack + pay c
        omega

theorem weight_closeArray {stack : List Frame} {s : State} (h : closeArray stack = some s) :
    s.weight ≤ stackWeight stack := by
  unfold closeArray at h
  split at h
  · rename_i items stack
    cases h
    have hcomplete := weight_complete (.arr items) stack
    rw [Value.weight] at hcomplete
    exact hcomplete
  · cases h

theorem weight_closeObject {stack : List Frame} {s : State} (h : closeObject stack = some s) :
    s.weight ≤ stackWeight stack := by
  unfold closeObject at h
  split at h
  · rename_i members stack
    cases h
    have hcomplete := weight_complete (.obj members) stack
    rw [Value.weight] at hcomplete
    exact hcomplete
  · cases h

theorem weight_wordOf {c : Char} {rest : List Char} {result : Value}
    (h : wordOf c = some (rest, result)) : result.weight = 0 := by
  unfold wordOf at h
  split at h <;> cases h <;> rfl

theorem weight_stepValue {opened : Bool} {stack : List Frame} {c : Char} {s : State}
    (h : stepValue opened stack c = some s) : s.weight ≤ stackWeight stack + pay c := by
  unfold stepValue at h
  split at h
  · cases h
    show 0 + stackWeight stack ≤ _
    omega
  · split at h
    · rename_i hc
      subst hc
      cases h
      show 1 + 0 + 0 + stackWeight stack ≤ stackWeight stack + 1
      omega
    · split at h
      · cases h
        show 0 + (0 + stackWeight stack) ≤ _
        omega
      · split at h
        · cases h
          show 0 + (0 + stackWeight stack) ≤ _
          omega
        · split at h
          · split at h
            · have hclose := weight_closeArray h
              omega
            · cases h
          · split at h
            · rename_i hword
              cases h
              rw [weight_mk, Mode.weight, weight_wordOf hword]
              omega
            · obtain ⟨state, -, rfl⟩ := Option.map_eq_some_iff.mp h
              show 0 + stackWeight stack ≤ _
              omega

theorem weight_stepName {opened : Bool} {stack : List Frame} {c : Char} {s : State}
    (h : stepName opened stack c = some s) : s.weight ≤ stackWeight stack + pay c := by
  unfold stepName at h
  split at h
  · cases h
    show 0 + stackWeight stack ≤ _
    omega
  · split at h
    · rename_i hc
      subst hc
      cases h
      show 1 + 0 + 0 + stackWeight stack ≤ stackWeight stack + 1
      omega
    · split at h
      · split at h
        · have hclose := weight_closeObject h
          omega
        · cases h
      · cases h

theorem weight_stepColon {name : Text} {stack : List Frame} {c : Char} {s : State}
    (h : stepColon name stack c = some s) :
    s.weight ≤ 2 + textCost name + stackWeight stack + pay c := by
  unfold stepColon at h
  split at h
  · cases h
    show 2 + textCost name + stackWeight stack ≤ _
    omega
  · split at h
    · split at h
      · rename_i members stack
        cases h
        show 0 + (membersWeight members + (2 + textCost name) + stackWeight stack) ≤
          2 + textCost name + (membersWeight members + stackWeight stack) + pay c
        omega
      · cases h
    · cases h

theorem weight_stepSeparator {stack : List Frame} {c : Char} {s : State}
    (h : stepSeparator stack c = some s) : s.weight ≤ stackWeight stack + pay c := by
  unfold stepSeparator at h
  split at h
  · cases h
    show 0 + stackWeight stack ≤ _
    omega
  · split at h
    · split at h
      · cases h
        rw [weight_mk, Mode.weight]
        omega
      · cases h
        rw [weight_mk, Mode.weight]
        omega
      · cases h
    · split at h
      · have hclose := weight_closeArray h
        omega
      · split at h
        · have hclose := weight_closeObject h
          omega
        · cases h

theorem weight_stepWord {rest : List Char} {result : Value} {stack : List Frame} {c : Char}
    {s : State} (h : stepWord rest result stack c = some s) :
    s.weight ≤ result.weight + stackWeight stack + pay c := by
  unfold stepWord at h
  split at h
  · cases h
  · split at h
    · cases h
      have hcomplete := weight_complete result stack
      omega
    · cases h
  · split at h
    · cases h
      rw [weight_mk, Mode.weight]
      omega
    · cases h

theorem weight_stepAfter {s s' : State} {c : Char} (h : stepAfter s c = some s') :
    s'.weight ≤ s.weight + pay c := by
  obtain ⟨mode, stack⟩ := s
  unfold stepAfter at h
  split at h
  · rename_i hmode
    have hmode' : mode = .separator := hmode
    subst hmode'
    have hstep := weight_stepSeparator h
    rw [weight_mk .separator, Mode.weight, Nat.zero_add]
    exact hstep
  · rename_i result hmode
    have hmode' : mode = .done result := hmode
    subst hmode'
    split at h
    · cases h
      exact Nat.le_add_right _ _
    · cases h
  · cases h

theorem weight_stepNumber {state : NumberState} {text : List Char} {stack : List Frame} {c : Char}
    {s : State} (h : stepNumber state text stack c = some s) :
    s.weight ≤ stackWeight stack + pay c := by
  unfold stepNumber at h
  split at h
  · cases h
    show 0 + stackWeight stack ≤ _
    omega
  · split at h
    · have hafter := weight_stepAfter h
      have hcomplete := weight_complete (.number text) stack
      rw [Value.weight] at hcomplete
      omega
    · split at h
      · split at h
        · cases h
          show 0 + stackWeight stack ≤ _
          omega
        · cases h
      · cases h

/-- What comes of a character is paid by it. -/
theorem cost_step {s s' : State} {c : Char} (h : step s c = some s') :
    s'.weight ≤ s.weight + pay c := by
  obtain ⟨mode, stack⟩ := s
  cases mode with
  | value opened =>
      rw [weight_mk (.value opened), Mode.weight, Nat.zero_add]
      exact weight_stepValue h
  | name opened =>
      rw [weight_mk (.name opened), Mode.weight, Nat.zero_add]
      exact weight_stepName h
  | colon name => exact weight_stepColon h
  | separator => exact weight_stepAfter h
  | text isName units escape => exact weight_stepText h
  | word rest result => exact weight_stepWord h
  | number state text =>
      rw [weight_mk (.number state text), Mode.weight, Nat.zero_add]
      exact weight_stepNumber h
  | done result => exact weight_stepAfter h

/-! ## A whole text -/

theorem cost_run : ∀ {cs : List Char} {s s' : State}, run s cs = some s' →
    s'.weight ≤ s.weight + payAll cs
  | [], s, s', h => by
      cases h
      exact Nat.le_add_right _ _
  | c :: cs, s, s', h => by
      obtain ⟨next, hstep, hrun⟩ := Option.bind_eq_some_iff.mp h
      have hfirst := cost_step hstep
      have hrest := cost_run hrun
      have hpay : payAll (c :: cs) = pay c + payAll cs := rfl
      omega

theorem weight_finish {s : State} {value : Value} (h : finish s = some value) :
    value.weight ≤ s.weight := by
  obtain ⟨mode, stack⟩ := s
  unfold finish at h
  split at h
  · rename_i result hmode
    have hmode' : mode = .done result := hmode
    subst hmode'
    cases h
    exact Nat.le_add_right _ _
  · rename_i state text hmode
    split at h
    · split at h
      · rename_i result hdone
        cases h
        have hcomplete := weight_complete (.number text) stack
        have hweight : value.weight ≤ (complete (.number text) stack).weight := by
          rw [State.weight, hdone]
          exact Nat.le_add_right _ _
        rw [Value.weight] at hcomplete
        rw [weight_mk]
        omega
      · cases h
    · cases h
  · cases h

/-- A text pays for the value that it is read as. -/
theorem weight_le_pay {text : String} {value : Value} (h : loads text = some value) :
    value.weight ≤ payAll text.toList := by
  obtain ⟨s, hrun, hfinish⟩ := Option.bind_eq_some_iff.mp h
  have hcost := cost_run hrun
  have hvalue := weight_finish hfinish
  have hstart : start.weight = 0 := rfl
  omega

end Weight

/-! ## Objects -/

section Objects

theorem weight_le_of_member? {name : Text} {value : Value} : ∀ {members : List (Text × Value)},
    member? name members = some value →
      2 + textCost name + value.weight ≤ membersWeight members
  | (other, old) :: members, h => by
      rw [membersWeight]
      unfold member? at h
      rw [List.find?_cons] at h
      split at h
      · rename_i heq
        have hname : other = name := of_decide_eq_true heq
        have hvalue : old = value := Option.some.inj h
        rw [hname, hvalue]
        omega
      · have ih := weight_le_of_member? h
        omega

/-- Two members are paid apart from each other. -/
theorem weight_le_of_two_members {name name' : Text} {value value' : Value} (hne : name ≠ name') :
    ∀ {members : List (Text × Value)}, member? name members = some value →
      member? name' members = some value' →
      2 + textCost name + value.weight + (2 + textCost name' + value'.weight) ≤
        membersWeight members
  | (other, old) :: members, h, h' => by
      rw [membersWeight]
      unfold member? at h h'
      rw [List.find?_cons] at h h'
      by_cases hother : other = name
      · have hother' : ¬ other = name' := fun heq => hne (hother.symm.trans heq)
        simp only [hother, decide_true, Option.map_some, Option.some.injEq] at h
        simp only [hother', decide_false] at h'
        have hrest := weight_le_of_member? h'
        rw [hother, h]
        omega
      · simp only [hother, decide_false] at h
        by_cases hother' : other = name'
        · simp only [hother', decide_true, Option.map_some, Option.some.injEq] at h'
          have hrest := weight_le_of_member? h
          rw [hother', h']
          omega
        · simp only [hother', decide_false] at h'
          have ih := weight_le_of_two_members hne h h'
          omega

theorem membersWeight_perm {members members' : List (Text × Value)} (h : members.Perm members') :
    membersWeight members = membersWeight members' := by
  induction h with
  | nil => rfl
  | cons member _ ih => rw [membersWeight, membersWeight, ih]
  | swap member member' members =>
      simp only [membersWeight]
      omega
  | trans _ _ ih ih' => exact ih.trans ih'

end Objects

/-! ## Plain strings -/

section PlainStrings

/-- A character that a string may have as it is. -/
def PlainChar (c : Char) : Prop := c ≠ '"' ∧ c ≠ '\\' ∧ ¬ c.toNat < 0x20

instance (c : Char) : Decidable (PlainChar c) := by
  unfold PlainChar
  infer_instance

/-- A text that needs no backslash. -/
def Plain (s : String) : Prop := ∀ c ∈ s.toList, PlainChar c

instance (s : String) : Decidable (Plain s) := List.decidableBAll PlainChar s.toList

/-- A character costs more than it pays exactly when it needs a backslash. -/
theorem cost_eq_pay_add (c : Char) :
    cost c.toNat = pay c + if PlainChar c then 0 else 1 := by
  by_cases hplain : PlainChar c
  · rw [if_pos hplain, cost_plain hplain.1 hplain.2.1 hplain.2.2, Nat.add_zero]
  · rw [if_neg hplain]
    by_cases hquote : c = '"'
    · subst hquote
      rfl
    · by_cases hbackslash : c = '\\'
      · subst hbackslash
        rfl
      · have hcontrol : c.toNat < 0x20 := by
          by_contra hcontrol
          exact hplain ⟨hquote, hbackslash, hcontrol⟩
        have hu : c ≠ 'u' := by
          rintro rfl
          exact absurd hcontrol (by decide)
        have hpay : ¬ (c = '"' ∨ c = '\\' ∨ c = 'u') := by
          rintro (heq | heq | heq)
          · exact hquote heq
          · exact hbackslash heq
          · exact hu heq
        rw [pay, if_neg hpay, cost, if_neg (by omega), if_pos (.inl hcontrol)]

theorem payAll_le_textCost : ∀ cs : List Char, payAll cs ≤ textCost (cs.map Char.toNat)
  | [] => Nat.le_refl _
  | c :: cs => by
      have ih := payAll_le_textCost cs
      have hcost := cost_eq_pay_add c
      show pay c + payAll cs ≤ cost c.toNat + textCost (cs.map Char.toNat)
      omega

/-- A text pays for itself exactly when it is plain. -/
theorem textCost_le_payAll_iff : ∀ {cs : List Char},
    textCost (cs.map Char.toNat) ≤ payAll cs ↔ ∀ c ∈ cs, PlainChar c
  | [] => by simp [textCost]
  | c :: cs => by
      have ih : textCost (cs.map Char.toNat) ≤ payAll cs ↔ _ := textCost_le_payAll_iff
      have hle := payAll_le_textCost cs
      have hcost := cost_eq_pay_add c
      have hcons : textCost ((c :: cs).map Char.toNat) ≤ payAll (c :: cs) ↔
          cost c.toNat + textCost (cs.map Char.toNat) ≤ pay c + payAll cs := Iff.rfl
      rw [hcons, List.forall_mem_cons, ← ih]
      by_cases hplain : PlainChar c
      · rw [if_pos hplain] at hcost
        rw [and_iff_right hplain]
        omega
      · rw [if_neg hplain] at hcost
        constructor
        · intro hall
          omega
        · exact fun hall => absurd hall.1 hplain

theorem textCost_codes {s : String} (h : Plain s) : textCost (codes s) = payAll s.toList :=
  Nat.le_antisymm (textCost_le_payAll_iff.mpr h) (payAll_le_textCost s.toList)

theorem run_append : ∀ (cs cs' : List Char) (s : State),
    run s (cs ++ cs') = (run s cs).bind fun s' => run s' cs'
  | [], _, _ => rfl
  | c :: cs, cs', s => by
      show (step s c).bind (fun s' => run s' (cs ++ cs')) =
        ((step s c).bind fun s' => run s' cs).bind fun s' => run s' cs'
      cases step s c with
      | none => rfl
      | some s' => exact run_append cs cs' s'

/-- A run over one text and then over another. -/
theorem run_trans {cs cs' : List Char} {s s' : State} (h : run s cs = some s') :
    run s (cs ++ cs') = run s' cs' := by
  rw [run_append, h]
  rfl

/-- Plain characters are read as they are. -/
theorem run_plain (isName : Bool) (stack : List Frame) : ∀ {cs : List Char} (units : Text),
    (∀ c ∈ cs, PlainChar c) → run ⟨.text isName units .none, stack⟩ cs =
      some ⟨.text isName (units ++ cs.map Char.toNat) .none, stack⟩
  | [], units, _ => by
      rw [List.map_nil, List.append_nil]
      rfl
  | c :: cs, units, h => by
      obtain ⟨hquote, hbackslash, hcontrol⟩ := h c List.mem_cons_self
      have hstep : step ⟨.text isName units .none, stack⟩ c =
          some ⟨.text isName (units ++ [c.toNat]) .none, stack⟩ := by
        show stepText isName units stack c .none = _
        rw [stepText, if_neg hquote, if_neg hbackslash, if_neg hcontrol]
      have ih := run_plain isName stack (units ++ [c.toNat])
        fun d hd => h d (List.mem_cons_of_mem _ hd)
      rw [run, hstep, Option.bind_some, ih, List.append_assoc, List.singleton_append,
        List.map_cons]

/-- No character is half of a pair. -/
theorem joinPairs_codes : ∀ cs : List Char, joinPairs (cs.map Char.toNat) = cs.map Char.toNat
  | [] => rfl
  | [_] => rfl
  | c :: d :: cs => by
      have hvalid := Percent.toNat_valid c
      have ih := joinPairs_codes (d :: cs)
      rw [List.map_cons] at ih
      rw [List.map_cons, List.map_cons, joinPairs, if_neg (by omega), ih]

end PlainStrings

end JsonText
