import Mathlib.Data.Nat.Digits
import Mathlib.Data.List.Infix

/-!
# The Go standard library, as far as the executor uses it

The task step persists the exit status of its process as the container property
`concourse:exit-status`, written with `fmt.Sprintf("%d", status)` and read back by a restarted
step with `fmt.Sscanf(prop, "%d", &step.exitStatus)`. Its artifact paths are built with
`path.Join` and `filepath.Join`, and the worker pool recognises a saturated worker by
`strings.Contains` on the error text. This file models these functions.

`path.Clean` is modelled by the four lexical rules of its documentation, element by element,
rather than by its byte-level loop; `filepath.Join` is the Unix one.

## Main definitions

* `Atc.Go.GoInt` — Go's 64-bit `int`.
* `Atc.Go.sprintfD`, `Atc.Go.sscanfD` — `fmt.Sprintf("%d")` and `fmt.Sscanf("%d")`.
* `Atc.Go.clean`, `Atc.Go.join`, `Atc.Go.filepathJoin` — `path.Clean`, `path.Join`,
  `filepath.Join`.
* `Atc.Go.contains` — `strings.Contains`.

## Main results

* `Atc.Go.sscanfD_sprintfD` — the decimal text of every `int` scans back to it.
* `Atc.Go.clean_append_slashDot` — a trailing `/.` does not change a cleaned path.
* `Atc.Go.clean_clean_append` — for a rooted path, cleaning before appending elements and
  cleaning once at the end agree.
-/

namespace Atc.Go

/-! ### `int` and `fmt` -/

/-- A value of Go's `int` on the 64-bit platforms the executor is built for. -/
structure GoInt where
  val : Int
  ge : -9223372036854775808 ≤ val
  le : val ≤ 9223372036854775807
  deriving DecidableEq

/-- Go's zero value of `int`. -/
instance : Zero GoInt := ⟨⟨0, by decide, by decide⟩⟩

@[simp] theorem GoInt.zero_val : (0 : GoInt).val = 0 := rfl

/-- The decimal digits of `n`, most significant first; `0` is written `0`. -/
def decimalDigits (n : Nat) : List Char :=
  if n = 0 then ['0'] else (Nat.digits 10 n).reverse.map fun d => Char.ofNat (48 + d)

/-- `fmt.Sprintf("%d", i)`: the decimal digits of `|i|`, after a `-` when `i` is negative. -/
def sprintfD (i : Int) : String :=
  ⟨if i < 0 then '-' :: decimalDigits i.natAbs else decimalDigits i.natAbs⟩

/-- Go's `isSpace` in `fmt/scan.go`: the characters of its `space` table. -/
def isSpace (c : Char) : Bool :=
  (9 ≤ c.toNat && c.toNat ≤ 13) || c.toNat == 32 || c.toNat == 0x85 || c.toNat == 0xa0 ||
    c.toNat == 0x1680 || (0x2000 ≤ c.toNat && c.toNat ≤ 0x200a) || c.toNat == 0x2028 ||
    c.toNat == 0x2029 || c.toNat == 0x202f || c.toNat == 0x205f || c.toNat == 0x3000

/-- `ss.SkipSpace` as `fmt.Sscanf` runs it: blanks are dropped, a newline is an error. -/
def skipSpace : List Char → Except String (List Char)
  | [] => .ok []
  | c :: cs =>
    if c = '\n' then .error "unexpected newline"
    else if isSpace c then skipSpace cs else .ok (c :: cs)

/-- The value of a run of decimal digits, read left to right as `strconv.ParseUint` reads it. -/
def digitsValue (ds : List Char) : Nat :=
  ds.foldl (fun v c => v * 10 + (c.toNat - 48)) 0

/-- `fmt.Sscanf(s, "%d", &v)` for `v` of type `int` (`ss.scanInt`): skip blanks, accept one
sign, read the longest run of decimal digits, which must not be empty, and convert the token
with `strconv.ParseInt(tok, 10, 64)`. Input that ends before a digit (empty, blank, or a lone
sign) is `io.EOF`, from `ss.notEOF`. What follows the digits is left unread. -/
def sscanfD (s : String) : Except String GoInt :=
  match skipSpace s.data with
  | .error e => .error e
  | .ok [] => .error "EOF"
  | .ok (c :: rest) =>
    let (neg, sign, body) :=
      if c = '-' then (true, ['-'], rest) else if c = '+' then (false, ['+'], rest)
      else (false, [], c :: rest)
    let ds := body.takeWhile Char.isDigit
    if body = [] then .error "EOF"
    else if ds = [] then .error "expected integer"
    else
      let v : Int := if neg then -(digitsValue ds : Int) else digitsValue ds
      if h : -9223372036854775808 ≤ v ∧ v ≤ 9223372036854775807 then .ok ⟨v, h.1, h.2⟩
      else .error ("strconv.ParseInt: parsing " ++
        (String.mk (sign ++ ds)).quote ++
        ": value out of range")

theorem toNat_digitChar {d : Nat} (h : d < 10) : (Char.ofNat (48 + d)).toNat = 48 + d := by
  interval_cases d <;> rfl

theorem isDigit_digitChar {d : Nat} (h : d < 10) : (Char.ofNat (48 + d)).isDigit = true := by
  interval_cases d <;> rfl

theorem isDigit_of_mem_decimalDigits {n : Nat} {c : Char} (h : c ∈ decimalDigits n) :
    c.isDigit = true := by
  unfold decimalDigits at h
  split_ifs at h
  · simp only [List.mem_singleton] at h; subst h; rfl
  · obtain ⟨d, hd, rfl⟩ := List.mem_map.1 h
    exact isDigit_digitChar (Nat.digits_lt_base (by norm_num) (List.mem_reverse.1 hd))

/-- Reading the digits of `l` (least significant first) from the most significant one on. -/
theorem foldl_digitChars (l : List Nat) (hl : ∀ d ∈ l, d < 10) (a : Nat) :
    (l.reverse.map fun d => Char.ofNat (48 + d)).foldl (fun v c => v * 10 + (c.toNat - 48)) a =
      a * 10 ^ l.length + Nat.ofDigits 10 l := by
  induction l generalizing a with
  | nil => simp [Nat.ofDigits]
  | cons d l ih =>
    simp only [List.reverse_cons, List.map_append, List.foldl_append, List.map_cons,
      List.map_nil, List.foldl_cons, List.foldl_nil, List.length_cons, Nat.ofDigits_cons]
    rw [ih (fun d hd => hl d (List.mem_cons_of_mem _ hd)),
      toNat_digitChar (hl d (List.mem_cons_self _ _))]
    ring_nf
    omega

@[simp] theorem digitsValue_decimalDigits (n : Nat) : digitsValue (decimalDigits n) = n := by
  unfold decimalDigits digitsValue
  split_ifs with h
  · simp [h]
  · rw [foldl_digitChars _ (fun d hd => Nat.digits_lt_base (by norm_num) hd), Nat.ofDigits_digits]
    simp

theorem decimalDigits_ne_nil (n : Nat) : decimalDigits n ≠ [] := by
  unfold decimalDigits
  split_ifs with h
  · simp
  · simpa [Nat.digits_ne_nil_iff_ne_zero] using h

theorem takeWhile_decimalDigits (n : Nat) :
    (decimalDigits n).takeWhile Char.isDigit = decimalDigits n :=
  List.takeWhile_eq_self_iff.2 fun _ => isDigit_of_mem_decimalDigits

/-- A text starting with a digit or a sign has no blank to skip. -/
theorem skipSpace_of_not_space (c : Char) (cs : List Char) (hn : c ≠ '\n')
    (hs : isSpace c = false) : skipSpace (c :: cs) = .ok (c :: cs) := by
  simp [skipSpace, hn, hs]

theorem head_decimalDigits (n : Nat) : ∃ c cs, decimalDigits n = c :: cs ∧ c.isDigit = true := by
  obtain ⟨c, cs, h⟩ := List.exists_cons_of_ne_nil (decimalDigits_ne_nil n)
  exact ⟨c, cs, h, isDigit_of_mem_decimalDigits (h ▸ List.mem_cons_self _ _)⟩

theorem isSpace_of_isDigit {c : Char} (h : c.isDigit = true) : c ≠ '\n' ∧ isSpace c = false := by
  simp only [Char.isDigit, Bool.and_eq_true, decide_eq_true_eq] at h
  have h1 : (48 : Nat) ≤ c.toNat := h.1
  have h2 : c.toNat ≤ 57 := h.2
  refine ⟨fun hc => by subst hc; simp at h1, ?_⟩
  unfold isSpace
  generalize c.toNat = n at h1 h2 ⊢
  interval_cases n <;> rfl

/-- **The decimal round trip.** `fmt.Sscanf("%d")` reads back every `int` that
`fmt.Sprintf("%d")` wrote, negative and extreme values included.

**Proof sketch.** The text is an optional `-` and the digits of `|i|`; all of them are digits,
so the scanner reads the whole text, and the left-to-right value of the digits is `|i|`
(`digitsValue_decimalDigits`). The value is `i`, which is within the range `ParseInt`
accepts. -/
theorem sscanfD_sprintfD (i : GoInt) : sscanfD (sprintfD i.val) = .ok i := by
  obtain ⟨c, cs, hcs, hc⟩ := head_decimalDigits i.val.natAbs
  obtain ⟨hn, hsp⟩ := isSpace_of_isDigit hc
  have hall := takeWhile_decimalDigits i.val.natAbs
  have hval := digitsValue_decimalDigits i.val.natAbs
  rw [hcs] at hall hval
  by_cases hv : i.val < 0
  · have hneg : -((digitsValue (c :: cs) : Nat) : Int) = i.val := by omega
    simp only [sscanfD, sprintfD, if_pos hv, hcs, skipSpace_of_not_space '-' _ (by decide) (by decide),
      ↓reduceIte, hall, reduceCtorEq, hneg, dif_pos (And.intro i.ge i.le)]
  · have hc' : c ≠ '-' := by rintro rfl; simp at hc
    have hc'' : c ≠ '+' := by rintro rfl; simp at hc
    have hpos : ((digitsValue (c :: cs) : Nat) : Int) = i.val := by omega
    simp only [sscanfD, sprintfD, if_neg hv, hcs, skipSpace_of_not_space _ _ hn hsp, hc', hc'',
      ↓reduceIte, hall, reduceCtorEq, hpos, dif_pos (And.intro i.ge i.le)]

/-! ### `path` and `path/filepath` -/

/-- The elements of a slash-separated path: `a//b/` has the elements `a`, ``, `b` and ``. -/
def splitSlash : List Char → List (List Char)
  | [] => [[]]
  | c :: cs =>
    if c = '/' then [] :: splitSlash cs
    else match splitSlash cs with
      | [] => [[c]]
      | w :: ws => (c :: w) :: ws

theorem splitSlash_ne_nil (cs : List Char) : splitSlash cs ≠ [] := by
  cases cs with
  | nil => simp [splitSlash]
  | cons c cs =>
    unfold splitSlash
    split_ifs
    · simp
    · split <;> simp

theorem splitSlash_append_slash (x y : List Char) :
    splitSlash (x ++ '/' :: y) = splitSlash x ++ splitSlash y := by
  induction x with
  | nil => simp [splitSlash]
  | cons c x ih =>
    rw [List.cons_append]
    by_cases hc : c = '/'
    · simp only [splitSlash, hc, ↓reduceIte, ih, List.cons_append]
    · obtain ⟨w, ws, hw⟩ := List.exists_cons_of_ne_nil (splitSlash_ne_nil x)
      simp only [splitSlash, hc, ↓reduceIte, ih, hw, List.cons_append]

/-- One element of `path.Clean`: empty and `.` elements vanish; `..` removes the element before
it, stays at the start of a relative path and vanishes at the start of a rooted one. The kept
elements are held innermost first. -/
def cleanStep (rooted : Bool) (acc : List (List Char)) (e : List Char) : List (List Char) :=
  if e = [] ∨ e = ['.'] then acc
  else if e = ['.', '.'] then
    match acc with
    | d :: rest => if d = ['.', '.'] then e :: acc else rest
    | [] => if rooted then [] else [e]
  else e :: acc

/-- `path.Clean`: the shortest path equivalent to `p` by purely lexical processing, by the
rules of its documentation; `.` when nothing is left. -/
def clean (p : String) : String :=
  let rooted := decide (p.data.head? = some '/')
  let body := ['/'].intercalate ((splitSlash p.data).foldl (cleanStep rooted) []).reverse
  let out := if rooted then '/' :: body else body
  ⟨if out = [] then ['.'] else out⟩

/-- `path.Join`: the elements joined by slashes, empty ones skipped while nothing is written,
then cleaned; `""` when every element is empty. -/
def join (elem : List String) : String :=
  if (elem.map String.length).sum = 0 then ""
  else clean ⟨elem.foldl (fun buf e =>
    if buf ≠ [] then buf ++ '/' :: e.data else if e ≠ "" then e.data else buf) []⟩

/-- `filepath.Join` on Unix: the elements from the first non-empty one on, joined by slashes
and cleaned; `""` when every element is empty. -/
def filepathJoin : List String → String
  | [] => ""
  | e :: rest => if e = "" then filepathJoin rest else clean ("/".intercalate (e :: rest))

theorem filepathJoin_pair {a : String} (b : String) (ha : a ≠ "") :
    filepathJoin [a, b] = clean (a ++ "/" ++ b) := by
  simp [filepathJoin, ha, String.intercalate, String.intercalate.go]

/-- A trailing `/.` names the same directory: `path.Clean` drops it. -/
theorem clean_append_slashDot {x : String} (hx : x ≠ "") : clean (x ++ "/.") = clean x := by
  have hdata : x.data ≠ [] := fun h => hx (String.ext h)
  have hsplit : (x ++ "/.").data = x.data ++ '/' :: ['.'] := rfl
  have hhead : (x.data ++ '/' :: ['.']).head? = x.data.head? := by
    obtain ⟨c, cs, hc⟩ := List.exists_cons_of_ne_nil hdata
    rw [hc]; rfl
  have hdot : ∀ r acc, List.foldl (cleanStep r) acc (splitSlash ['.']) = acc := fun _ _ => rfl
  simp only [clean, hsplit, splitSlash_append_slash, List.foldl_append, hhead, hdot]

/-- An element `path.Clean` keeps in a rooted path: not empty, not `.` or `..`, and without a
slash. -/
def KeptElem (e : List Char) : Prop :=
  e ≠ [] ∧ e ≠ ['.'] ∧ e ≠ ['.', '.'] ∧ '/' ∉ e

theorem not_slash_mem_splitSlash : ∀ (cs : List Char), ∀ e ∈ splitSlash cs, '/' ∉ e
  | [] => by simp [splitSlash]
  | c :: cs => by
    have ih := not_slash_mem_splitSlash cs
    unfold splitSlash
    split_ifs with hc
    · simpa using ih
    · split
      · simpa [eq_comm] using hc
      · rename_i w ws hw
        rw [hw] at ih
        simp only [List.mem_cons, forall_eq_or_imp] at ih ⊢
        exact ⟨by simp [Ne.symm hc, ih.1], ih.2⟩

theorem cleanStep_kept {acc : List (List Char)} {e : List Char} (hacc : ∀ d ∈ acc, KeptElem d)
    (he : '/' ∉ e) : ∀ d ∈ cleanStep true acc e, KeptElem d := by
  unfold cleanStep
  by_cases h₁ : e = [] ∨ e = ['.']
  · rw [if_pos h₁]; exact hacc
  rw [if_neg h₁]
  by_cases h₂ : e = ['.', '.']
  · rw [if_pos h₂]
    rcases acc with _ | ⟨d, rest⟩
    · exact nofun
    · dsimp only
      rw [if_neg (hacc d (List.mem_cons_self _ _)).2.2.1]
      exact fun x hx => hacc x (List.mem_cons_of_mem _ hx)
  · rw [if_neg h₂]
    push_neg at h₁
    exact List.forall_mem_cons.2 ⟨⟨h₁.1, h₁.2, h₂, he⟩, hacc⟩

theorem foldl_cleanStep_kept (l : List (List Char)) (hl : ∀ e ∈ l, '/' ∉ e) :
    ∀ acc, (∀ d ∈ acc, KeptElem d) → ∀ d ∈ l.foldl (cleanStep true) acc, KeptElem d := by
  induction l with
  | nil => exact fun _ h => h
  | cons e l ih =>
    rw [List.forall_mem_cons] at hl
    exact fun acc hacc => ih hl.2 _ (cleanStep_kept hacc hl.1)

theorem foldl_cleanStep_of_kept (segs : List (List Char)) (hs : ∀ e ∈ segs, KeptElem e)
    (r : Bool) (acc : List (List Char)) :
    segs.foldl (cleanStep r) acc = segs.reverse ++ acc := by
  induction segs generalizing acc with
  | nil => rfl
  | cons e segs ih =>
    rw [List.forall_mem_cons] at hs
    have : cleanStep r acc e = e :: acc := by
      simp [cleanStep, hs.1.1, hs.1.2.1, hs.1.2.2.1]
    simp [this, ih hs.2]

theorem splitSlash_of_not_mem : ∀ {cs : List Char}, '/' ∉ cs → splitSlash cs = [cs]
  | [], _ => rfl
  | c :: cs, h => by
    rw [List.mem_cons, not_or] at h
    simp only [splitSlash, Ne.symm h.1, if_false, splitSlash_of_not_mem h.2]

/-- The elements of slash-joined elements without a slash are those elements. -/
theorem splitSlash_intercalate :
    ∀ {segs : List (List Char)}, segs ≠ [] → (∀ e ∈ segs, '/' ∉ e) →
      splitSlash (['/'].intercalate segs) = segs
  | [s], _, h => by
    simpa [List.intercalate] using splitSlash_of_not_mem (h s (List.mem_singleton_self _))
  | s :: s' :: rest, _, h => by
    rw [List.forall_mem_cons] at h
    show splitSlash (s ++ '/' :: ['/'].intercalate (s' :: rest)) = _
    rw [splitSlash_append_slash, splitSlash_of_not_mem h.1,
      splitSlash_intercalate (List.cons_ne_nil _ _) h.2]
    rfl

theorem splitSlash_cons_slash (cs : List Char) : splitSlash ('/' :: cs) = [] :: splitSlash cs := by
  simp [splitSlash]

theorem cleanStep_nil (r : Bool) (acc : List (List Char)) : cleanStep r acc [] = acc := by
  simp [cleanStep]

/-- A rooted path cleans to a slash followed by the elements it keeps. -/
theorem clean_data_of_rooted {x : String} (hx : x.data.head? = some '/') :
    (clean x).data =
      '/' :: ['/'].intercalate ((splitSlash x.data).foldl (cleanStep true) []).reverse := by
  simp [clean, hx]

theorem clean_mk_rooted {l : List Char} (hl : l.head? = some '/') :
    clean ⟨l⟩ = ⟨'/' :: ['/'].intercalate ((splitSlash l).foldl (cleanStep true) []).reverse⟩ := by
  simp [clean, hl]

/-- Cleaning a cleaned rooted path keeps the same elements. -/
theorem foldl_splitSlash_clean {x : String} (hx : x.data.head? = some '/') :
    (splitSlash (clean x).data).foldl (cleanStep true) [] =
      (splitSlash x.data).foldl (cleanStep true) [] := by
  have hA := foldl_cleanStep_kept (splitSlash x.data) (not_slash_mem_splitSlash _) [] nofun
  rw [clean_data_of_rooted hx, splitSlash_cons_slash, List.foldl_cons, cleanStep_nil]
  generalize (splitSlash x.data).foldl (cleanStep true) [] = A at hA ⊢
  by_cases hA0 : A = []
  · subst hA0; rfl
  · have hkept : ∀ e ∈ A.reverse, KeptElem e := fun e he => hA e (List.mem_reverse.1 he)
    rw [splitSlash_intercalate (by simpa using hA0) fun e he => (hkept e he).2.2.2,
      foldl_cleanStep_of_kept _ hkept, List.reverse_reverse, List.append_nil]

/-- **Cleaning is compatible with appending.** For a rooted `x`, cleaning `x` before appending
more elements and cleaning once at the end give the same path. -/
theorem clean_clean_append {x : String} (hx : x.data.head? = some '/') (f : List Char) :
    clean ⟨(clean x).data ++ '/' :: f⟩ = clean ⟨x.data ++ '/' :: f⟩ := by
  have h₁ : ((clean x).data ++ '/' :: f).head? = some '/' := by
    rw [clean_data_of_rooted hx]; rfl
  have h₂ : (x.data ++ '/' :: f).head? = some '/' := by
    obtain ⟨c, cs, hc⟩ := List.exists_cons_of_ne_nil (fun h => by simp [h] at hx : x.data ≠ [])
    rw [hc] at hx ⊢; exact hx
  rw [clean_mk_rooted h₁, clean_mk_rooted h₂, splitSlash_append_slash, splitSlash_append_slash,
    List.foldl_append, List.foldl_append, foldl_splitSlash_clean hx]

/-- An empty element vanishes: a doubled slash cleans like one. -/
theorem clean_append_slash_slash {y : List Char} (hy : y ≠ []) (f : List Char) :
    clean ⟨y ++ '/' :: '/' :: f⟩ = clean ⟨y ++ '/' :: f⟩ := by
  have hhead : (y ++ '/' :: '/' :: f).head? = (y ++ '/' :: f).head? := by
    obtain ⟨c, cs, rfl⟩ := List.exists_cons_of_ne_nil hy; rfl
  have hkept : ∀ r, (splitSlash (y ++ '/' :: '/' :: f)).foldl (cleanStep r) [] =
      (splitSlash (y ++ '/' :: f)).foldl (cleanStep r) [] := fun r => by
    rw [splitSlash_append_slash, splitSlash_append_slash, splitSlash_cons_slash, List.foldl_append,
      List.foldl_append, List.foldl_cons, cleanStep_nil]
  simp only [clean, hhead, hkept]

/-! ### `strings` -/

/-- `strings.Contains`. -/
def contains (s substr : String) : Bool :=
  decide (substr.data <:+: s.data)

end Atc.Go
