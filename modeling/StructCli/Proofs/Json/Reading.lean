import StructCli.Json
import StructCli.Proofs.Go.Escape
import StructCli.Proofs.Text.CodePoint

/-! # Reading of JSON

A reader of texts made of strings, arrays and objects, with white space between the tokens. It
gives back every value from its written form, whatever characters the strings hold.
-/

namespace StructCli

theorem Text.length_hexDigits (w n : Nat) : (hexDigits w n).length = w := by
  induction w generalizing n with
  | zero => rfl
  | succ w ih => simp [hexDigits, ih]

namespace Json

open Go.Literal

def isSpace (c : CodePoint) : Bool :=
  c = .scalar ' ' || c = .scalar '\t' || c = .scalar '\n' || c = .scalar '\r'

def skip (t : Text) : Text := t.dropWhile isSpace

def simpleEscape? : CodePoint → Option Nat
  | .scalar '"' => some 34
  | .scalar '\\' => some 92
  | .scalar '/' => some 47
  | .scalar 'b' => some 8
  | .scalar 'f' => some 12
  | .scalar 'n' => some 10
  | .scalar 'r' => some 13
  | .scalar 't' => some 9
  | _ => none

/-- The second half of a surrogate pair, after the escape of its first half. -/
def secondHalf? (t : Text) : Option Nat := do
  guard (t.take 2 = "\\u")
  let low ← hexNumber? 0 4 (t.drop 2)
  guard (0xDC00 ≤ low ∧ low < 0xE000)
  return low - 0xDC00

/-- The escape after a backslash: the number that it denotes, and how many characters it takes. Two
escapes of the halves of a surrogate pair denote one number. -/
def escape? : Text → Option (Nat × Nat)
  | [] => none
  | c :: r =>
    if c = .scalar 'u' then do
      let n ← hexNumber? 0 4 r
      match secondHalf? (r.drop 4) with
      | some low =>
        if 0xD800 ≤ n ∧ n < 0xDC00 then return (0x10000 + 0x400 * (n - 0xD800) + low, 11)
        else return (n, 5)
      | none => return (n, 5)
    else (simpleEscape? c).map (·, 1)

/-- Reads a string after its opening quote. The first `pending` characters belong to an escape that
has been read. -/
def chars? : Nat → Text → Option (Text × Text)
  | _, [] => none
  | pending + 1, _ :: r => chars? pending r
  | 0, c :: r =>
    if c = .scalar '"' then some ([], r)
    else if c = .scalar '\\' then do
      let (n, length) ← escape? r
      let d ← CodePoint.ofNat? n
      let (t, rest) ← chars? length r
      return (d :: t, rest)
    else if c.value < 32 then none
    else do
      let (t, rest) ← chars? 0 r
      return (c :: t, rest)

def string? : Text → Option (Text × Text)
  | .scalar '"' :: r => chars? 0 r
  | _ => none

mutual

/-- Reads a value, and gives what follows it. The length of a text is fuel enough: each level of
nesting has two brackets, and each element after the first a comma. -/
def value? : Nat → Text → Option (Json × Text)
  | 0, _ => none
  | fuel + 1, t =>
    match skip t with
    | .scalar '"' :: r => (chars? 0 r).map fun p => (.string p.1, p.2)
    | .scalar '[' :: r =>
      if (skip r).head? = some (.scalar ']') then some (.array [], (skip r).tail)
      else (items? fuel r).map fun p => (.array p.1, p.2)
    | .scalar '\x7b' :: r =>
      if (skip r).head? = some (.scalar '\x7d') then some (.object [], (skip r).tail)
      else (members? fuel r).map fun p => (.object p.1, p.2)
    | _ => none

def items? : Nat → Text → Option (List Json × Text)
  | 0, _ => none
  | fuel + 1, t => do
    let (v, r) ← value? fuel t
    match skip r with
    | .scalar ',' :: r => (items? fuel r).map fun p => (v :: p.1, p.2)
    | .scalar ']' :: r => some ([v], r)
    | _ => none

def members? : Nat → Text → Option (List (Text × Json) × Text)
  | 0, _ => none
  | fuel + 1, t => do
    let (k, r) ← string? (skip t)
    match skip r with
    | .scalar ':' :: r => do
      let (v, r) ← value? fuel r
      match skip r with
      | .scalar ',' :: r => (members? fuel r).map fun p => ((k, v) :: p.1, p.2)
      | .scalar '\x7d' :: r => some ([(k, v)], r)
      | _ => none
    | _ => none

end

/-- The value that a text holds, with nothing but white space around it. -/
def decode? (t : Text) : Option Json :=
  match value? t.length t with
  | some (v, r) => if skip r = [] then some v else none
  | none => none

section Strings

variable {c : CodePoint} {t r : Text} {n k : Nat}

theorem hexValue?_digitChar : ∀ d < 16, hexValue? (.scalar (Nat.digitChar d)) = some d := by
  decide

theorem hexNumberOf?_hexDigits (w n : Nat) :
    hexNumberOf? (Text.hexDigits w n) = some (n % 16 ^ w) := by
  induction w generalizing n with
  | zero => simp [Text.hexDigits, hexNumberOf?, Nat.mod_one]
  | succ w ih =>
    have hlast := hexValue?_digitChar (n % 16) (Nat.mod_lt _ (by decide))
    have hmod : n % 16 ^ (w + 1) = 16 * (n / 16 % 16 ^ w) + n % 16 := by
      rw [Nat.pow_succ', Nat.mod_mul, Nat.add_comm]
    simp only [hexNumberOf?] at ih
    simp [hexNumberOf?, Text.hexDigits, ih, hlast, hmod]

theorem hexNumber?_hexDigits (w n : Nat) (r : Text) :
    hexNumber? 0 w (Text.hexDigits w n ++ r) = some (n % 16 ^ w) :=
  hexNumber?_eq_some_iff.mpr
    ⟨_, r, rfl, Text.length_hexDigits w n, hexNumberOf?_hexDigits w n⟩

theorem chars?_pending (p r : Text) : chars? p.length (p ++ r) = chars? 0 r := by
  induction p with
  | nil => rfl
  | cons c p ih => simpa [chars?] using ih

theorem chars?_escape (h : escape? (t ++ r) = some (c.value, t.length)) :
    chars? 0 (.scalar '\\' :: t ++ r) = (chars? 0 r).map fun p => (c :: p.1, p.2) := by
  have hq : CodePoint.scalar '\\' ≠ .scalar '"' := by decide
  rw [List.cons_append, chars?, if_neg hq, if_pos rfl, h]
  simp only [Option.bind_eq_bind, Option.bind_some, CodePoint.ofNat?_value, chars?_pending]
  cases chars? 0 r <;> rfl

theorem escape?_hex (hn : n < 0xD800) (r : Text) :
    escape? (.scalar 'u' :: Text.hexDigits 4 n ++ r) = some (n, 5) := by
  have hmod : n % 16 ^ 4 = n := Nat.mod_eq_of_lt (by omega)
  have hpair : ¬ (0xD800 ≤ n ∧ n < 0xDC00) := by omega
  rw [List.cons_append, escape?, if_pos rfl, hexNumber?_hexDigits, hmod]
  simp only [Option.bind_eq_bind, Option.bind_some, if_neg hpair]
  split <;> rfl

theorem chars?_self (hq : c ≠ .scalar '"') (hb : c ≠ .scalar '\\') (hc : ¬ c.value < 32)
    (r : Text) : chars? 0 (c :: r) = (chars? 0 r).map fun p => (c :: p.1, p.2) := by
  rw [chars?, if_neg hq, if_neg hb, if_neg hc]
  cases chars? 0 r <;> rfl

theorem chars?_unit (c : CodePoint) (r : Text) :
    chars? 0 (unit c ++ r) = (chars? 0 r).map fun p => (c :: p.1, p.2) := by
  have letter (a : Char) (h : simpleEscape? (.scalar a) = some c.value) (hu : a ≠ 'u') :
      chars? 0 (.scalar '\\' :: [.scalar a] ++ r) =
        (chars? 0 r).map fun p => (c :: p.1, p.2) :=
    chars?_escape (by simp [escape?, h, hu])
  unfold unit
  split
  · next h => exact letter '"' (by rw [h]; rfl) (by decide)
  split
  · next h => exact letter '\\' (by rw [h]; rfl) (by decide)
  split
  · next h => exact letter 'b' (by rw [h]; rfl) (by decide)
  split
  · next h => exact letter 't' (by rw [h]; rfl) (by decide)
  split
  · next h => exact letter 'n' (by rw [h]; rfl) (by decide)
  split
  · next h => exact letter 'f' (by rw [h]; rfl) (by decide)
  split
  · next h => exact letter 'r' (by rw [h]; rfl) (by decide)
  split
  · next h =>
    have hu : (Text.ofString "\\u" ++ Text.hexDigits 4 c.value) =
        .scalar '\\' :: (.scalar 'u' :: Text.hexDigits 4 c.value) := rfl
    rw [hu]
    refine chars?_escape ?_
    rw [escape?_hex (by omega), List.length_cons, Text.length_hexDigits]
  · next hq hb _ _ _ _ _ hc => exact chars?_self hq hb hc r

theorem chars?_flatMap (t r : Text) :
    chars? 0 (t.flatMap unit ++ .scalar '"' :: r) = some (t, r) := by
  induction t with
  | nil => simp [chars?]
  | cons c t ih => rw [List.flatMap_cons, List.append_assoc, chars?_unit, ih, Option.map_some]

theorem string?_quoted (t r : Text) : string? (quoted t ++ r) = some (t, r) := by
  have h : quoted t ++ r = .scalar '"' :: (t.flatMap unit ++ .scalar '"' :: r) := by simp [quoted]
  rw [h, string?, chars?_flatMap]

end Strings

theorem induct {P : Json → Prop} (string : ∀ t, P (.string t))
    (array : ∀ items, (∀ v ∈ items, P v) → P (.array items))
    (object : ∀ members, (∀ m ∈ members, P m.2) → P (.object members)) : ∀ v, P v
  | .string t => string t
  | .array items => array items fun v _ => induct string array object v
  | .object members => object members fun (k, v) hm =>
    have : sizeOf v < 1 + sizeOf members := by
      have hm := List.sizeOf_lt_of_mem hm
      rw [Prod.mk.sizeOf_spec] at hm
      omega
    induct string array object v

section Layout

variable {c : CodePoint} {t u r : Text} {level outer fuel : Nat}

theorem skip_cons (h : isSpace c = false) (r : Text) : skip (c :: r) = c :: r := by
  simp [skip, h]

theorem skip_blank (r : Text) : skip (.scalar ' ' :: r) = skip r := rfl

theorem skip_newline (level : Nat) (r : Text) : skip (newline level ++ r) = skip r := by
  have hblanks (n : Nat) : skip (List.replicate n (.scalar ' ') ++ r) = skip r := by
    induction n with
    | zero => rfl
    | succ n ih => rwa [List.replicate_succ, List.cons_append, skip_blank]
  exact hblanks (2 * level)

theorem value?_congr (h : skip t = skip u) : value? fuel t = value? fuel u := by
  cases fuel with
  | zero => rfl
  | succ fuel => rw [value?, value?, h]

theorem items?_congr (h : skip t = skip u) : items? fuel t = items? fuel u := by
  cases fuel with
  | zero => rfl
  | succ fuel => rw [items?, items?, value?_congr h]

theorem members?_congr (h : skip t = skip u) : members? fuel t = members? fuel u := by
  cases fuel with
  | zero => rfl
  | succ fuel => rw [members?, members?, h]

theorem exists_render_eq_cons (level : Nat) (v : Json) :
    ∃ c ∈ [CodePoint.scalar '"', .scalar '[', .scalar '\x7b'], ∃ r, render level v = c :: r := by
  cases v with
  | string t => exact ⟨.scalar '"', by simp, _, by rw [render, quoted, List.cons_append]⟩
  | array items =>
    cases items with
    | nil => exact ⟨.scalar '[', by simp, _, by rw [render]; rfl⟩
    | cons v vs => exact ⟨.scalar '[', by simp, _, by rw [render]; rfl⟩
  | object members =>
    cases members with
    | nil => exact ⟨.scalar '\x7b', by simp, _, by rw [render]; rfl⟩
    | cons m ms => exact ⟨.scalar '\x7b', by simp, _, by rw [render]; rfl⟩

theorem length_render_pos (level : Nat) (v : Json) : 0 < (render level v).length := by
  obtain ⟨c, -, t, ht⟩ := exists_render_eq_cons level v
  simp [ht]

theorem isSpace_of_mem : ∀ c ∈ [CodePoint.scalar '"', .scalar '[', .scalar '\x7b'],
    isSpace c = false ∧ c ≠ .scalar ']' := by
  decide

theorem skip_render (level : Nat) (v : Json) (r : Text) :
    skip (render level v ++ r) = render level v ++ r := by
  obtain ⟨c, hc, t, ht⟩ := exists_render_eq_cons level v
  rw [ht]
  exact skip_cons (isSpace_of_mem c hc).1 _

theorem skip_quoted (k r : Text) : skip (quoted k ++ r) = quoted k ++ r := rfl

end Layout

/-- A value is read from its written form, at any level and whatever follows it. -/
def Readable (v : Json) : Prop :=
  ∀ level fuel r, (render level v).length ≤ fuel →
    value? fuel (render level v ++ r) = some (v, r)

section Values

variable {v : Json} {vs : List Json} {k : Text} {ms : List (Text × Json)}
  {level outer fuel : Nat}

theorem items?_item (h : Readable v) (hf : (render level v).length ≤ fuel) (r : Text) :
    items? (fuel + 1) (render level v ++ r) =
      match skip r with
      | .scalar ',' :: r => (items? fuel r).map fun p => (v :: p.1, p.2)
      | .scalar ']' :: r => some ([v], r)
      | _ => none := by
  rw [items?, h level fuel r hf]
  rfl

/-- The fuel that is left after a value covers the values after it, which are shorter. -/
theorem items?_render (h : ∀ w ∈ v :: vs, Readable w) (r : Text)
    (hf : (render level v).length + (renderItems level vs).length < fuel) :
    items? fuel (render level v ++ (renderItems level vs ++ (newline outer ++ .scalar ']' :: r))) =
      some (v :: vs, r) := by
  induction vs generalizing v fuel with
  | nil =>
    cases fuel with
    | zero => omega
    | succ fuel =>
      rw [items?_item (h v (by simp)) (by omega)]
      simp [renderItems, skip_newline, skip_cons (c := .scalar ']') rfl]
  | cons w ws ih =>
    cases fuel with
    | zero => omega
    | succ fuel =>
      simp only [renderItems, List.length_append, List.length_cons] at hf
      have hws := ih (fun u hu => h u (List.mem_cons_of_mem v hu)) (by omega : _ < fuel)
      rw [items?_item (h v (by simp)) (by omega)]
      simp [renderItems, skip_cons (c := .scalar ',') rfl, items?_congr (skip_newline level _), hws]

theorem members?_member {v : Json} (h : Readable v) (hf : (render level v).length ≤ fuel)
    (k r : Text) : members? (fuel + 1) (quoted k ++ (": " ++ (render level v ++ r))) =
      match skip r with
      | .scalar ',' :: r => (members? fuel r).map fun p => ((k, v) :: p.1, p.2)
      | .scalar '\x7d' :: r => some ([(k, v)], r)
      | _ => none := by
  have hcolon (t : Text) : Text.ofString ": " ++ t = .scalar ':' :: .scalar ' ' :: t := rfl
  have hv : value? fuel (.scalar ' ' :: (render level v ++ r)) = some (v, r) := by
    rw [value?_congr (skip_blank _), h level fuel r hf]
  rw [members?, skip_quoted, string?_quoted, hcolon]
  simp only [Option.bind_eq_bind, Option.bind_some, skip_cons (c := .scalar ':') rfl, hv]

theorem members?_render {v : Json} (h : ∀ m ∈ (k, v) :: ms, Readable m.2) (r : Text)
    (hf : (render level v).length + (renderMembers level ms).length < fuel) :
    members? fuel (quoted k ++ (": " ++ (render level v ++
      (renderMembers level ms ++ (newline outer ++ .scalar '\x7d' :: r))))) =
      some ((k, v) :: ms, r) := by
  induction ms generalizing k v fuel with
  | nil =>
    cases fuel with
    | zero => omega
    | succ fuel =>
      rw [members?_member (v := v) (h (k, v) (by simp)) (by omega)]
      simp [renderMembers, skip_newline, skip_cons (c := .scalar '\x7d') rfl]
  | cons m ms ih =>
    cases fuel with
    | zero => omega
    | succ fuel =>
      obtain ⟨l, w⟩ := m
      simp only [renderMembers, List.length_append, List.length_cons] at hf
      have hms := ih (fun u hu => h u (List.mem_cons_of_mem (k, v) hu)) (by omega : _ < fuel)
      rw [members?_member (v := v) (h (k, v) (by simp)) (by omega)]
      simp [renderMembers, skip_cons (c := .scalar ',') rfl, members?_congr (skip_newline level _),
        hms]

/-- No value is read without fuel, but none has an empty written form either. -/
theorem readable_of_succ (h : ∀ level fuel r, (render level v).length ≤ fuel + 1 →
    value? (fuel + 1) (render level v ++ r) = some (v, r)) : Readable v := by
  intro level fuel r hf
  cases fuel with
  | zero => exact absurd hf (Nat.not_le.mpr (length_render_pos level v))
  | succ fuel => exact h level fuel r hf

theorem readable_string (t : Text) : Readable (.string t) := by
  refine readable_of_succ fun level fuel r _ => ?_
  have h : quoted t ++ r = .scalar '"' :: (t.flatMap unit ++ .scalar '"' :: r) := by simp [quoted]
  rw [render, value?, skip_quoted, h]
  simp only [chars?_flatMap, Option.map_some]

theorem readable_array (h : ∀ v ∈ vs, Readable v) : Readable (.array vs) := by
  refine readable_of_succ fun level fuel r hf => ?_
  cases vs with
  | nil => rw [render]; rfl
  | cons v vs =>
    rw [render] at hf ⊢
    have hclose : Text.ofString "]" = [.scalar ']'] := rfl
    simp only [List.cons_append, List.append_assoc, List.length_cons, List.length_append, hclose,
      List.length_nil, List.nil_append] at hf ⊢
    have hhead : (skip (newline (level + 1) ++ (render (level + 1) v ++
        (renderItems (level + 1) vs ++ (newline level ++ .scalar ']' :: r))))).head? ≠
        some (.scalar ']') := by
      rw [skip_newline, skip_render]
      obtain ⟨c, hc, t, ht⟩ := exists_render_eq_cons (level + 1) v
      rw [ht]
      simpa using (isSpace_of_mem c hc).2
    rw [value?, skip_cons rfl]
    simp only [if_neg hhead]
    rw [items?_congr (skip_newline _ _), items?_render h r (by omega), Option.map_some]

theorem readable_object (h : ∀ m ∈ ms, Readable m.2) : Readable (.object ms) := by
  refine readable_of_succ fun level fuel r hf => ?_
  cases ms with
  | nil => rw [render]; rfl
  | cons m ms =>
    obtain ⟨k, v⟩ := m
    rw [render] at hf ⊢
    have hclose : Text.ofString "\x7d" = [.scalar '\x7d'] := rfl
    simp only [List.cons_append, List.append_assoc, List.length_cons, List.length_append, hclose,
      List.length_nil, List.nil_append] at hf ⊢
    have hhead (t : Text) : (skip (newline (level + 1) ++ (quoted k ++ t))).head? ≠
        some (.scalar '\x7d') := by
      rw [skip_newline, skip_quoted, quoted]
      simp
    rw [value?, skip_cons rfl]
    simp only [if_neg (hhead _)]
    rw [members?_congr (skip_newline _ _), members?_render h r (by omega), Option.map_some]

theorem readable (v : Json) : Readable v := by
  induction v using induct with
  | string t => exact readable_string t
  | array items ih => exact readable_array ih
  | object members ih => exact readable_object ih

end Values

/-- Decoding undoes rendering, whatever the level is and with white space behind the text. -/
theorem decode?_render (level : Nat) (v : Json) (r : Text) (h : skip r = []) :
    decode? (render level v ++ r) = some v := by
  rw [decode?, readable v level _ r (by simp)]
  simp [h]

example : decode? " [\"\\u0041\\/\\ud83d\\ude00\", \x7b \x7d]" =
    some (.array [.string "A/😀", .object []]) := by
  cbv

end Json

end StructCli
