import Orchestrator.Number.Reading
import Orchestrator.Template.Argument
import Orchestrator.Text.Case

/-!
The filters of the template language, except those that apply other filters.
-/

namespace Orchestrator

namespace Template

open Value (ofText)

/-- The characters that stand for themselves in HTML only as an entity. -/
def htmlEntity (c : Char) : List Char :=
  match c with
  | '<' => "&lt;".toList
  | '>' => "&gt;".toList
  | '&' => "&amp;".toList
  | '"' => "&quot;".toList
  | '\'' => "&#x27;".toList
  | '/' => "&#x2f;".toList
  | c => [c]

def escapeHtml (s : String) : String := String.ofList (s.toList.flatMap htmlEntity)

/-- The text of a value in HTML. -/
def Value.escaped : Value → String
  | .str s true => s
  | .str s false => escapeHtml s
  | .int n => decimalText n
  | .float x => x.plain
  | v => escapeHtml v.text

namespace Filter

/-- A filter on text. -/
def onText (f : String → Value) : Tool := .of do
  let s ← Take.text
  pure (.ok (f s))

/-- A filter on one value. -/
def onValue (f : Value → Except Fault Value) : Tool := .of do
  let v ← Take.value
  pure (f v)

/-- A filter on the elements of one value. -/
def onItems (f : List Value → Except Fault Value) : Tool :=
  onValue fun v => v.walk >>= f

def isPunctuation (c : Char) : Bool :=
  ('!' ≤ c && c ≤ '/') || (':' ≤ c && c ≤ '@') || ('[' ≤ c && c ≤ '\x60') ||
    ('\x7b' ≤ c && c ≤ '~')

/-- Capital letters at the start of each word. The flag says whether a word may begin. -/
def titleChars : Bool → List Char → List Char
  | _, [] => []
  | atStart, c :: cs =>
    if isPunctuation c || Text.isBlank c then c :: titleChars true cs
    else if atStart then Text.upperChar c ++ titleChars false cs
    else Text.lowerChar c ++ titleChars false cs

def title (s : String) : Value := ofText (String.ofList (titleChars true s.toList))

/-- A capital letter at the start, and only there. -/
def capitalize (s : String) : Value :=
  match s.toList with
  | [] => ofText ""
  | c :: cs => ofText (String.ofList (Text.upperChar c) ++ Text.lowerText (String.ofList cs))

/-- Splits a text at each place where a separator occurs. The fuel bounds the pieces' characters. -/
def splitText (separator : List Char) : Nat → List Char → List Char → List (List Char)
  | 0, acc, rest => [acc.reverse ++ rest]
  | _ + 1, acc, [] => if separator.isEmpty then [acc.reverse, []] else [acc.reverse]
  | fuel + 1, acc, c :: cs =>
    if separator.isEmpty then acc.reverse :: splitText separator fuel [c] cs
    else if separator.isPrefixOf (c :: cs) then
      acc.reverse :: splitText separator fuel [] ((c :: cs).drop separator.length)
    else splitText separator fuel (c :: acc) cs

def pieces (separator s : String) : List String :=
  (splitText separator.toList (s.length + 1) [] s.toList).map String.ofList

/-- At most `n` pieces; the last one holds the rest. -/
def limitPieces (separator : String) (n : Nat) (found : List String) : List String :=
  if found.length ≤ n ∨ n = 0 then found.take n
  else found.take (n - 1) ++ [separator.intercalate (found.drop (n - 1))]

/-- Splits at single blanks into at most `n` pieces. -/
def blankPieces : Nat → List Char → List Char → List String
  | 0, _, _ => []
  | _, acc, [] => [String.ofList acc.reverse]
  | n + 1, acc, c :: cs =>
    if Text.isBlank c ∧ n ≠ 0 then String.ofList acc.reverse :: blankPieces n [] cs
    else blankPieces (n + 1) (c :: acc) cs

def split : Tool := .of do
  let s ← Take.text
  let separator ← Take.text?
  let most ← Take.optional Take.asInt
  let most := most.bind fun n => if 0 ≤ n then some (n.toNat + 1) else none
  pure <| .ok <| .list <| List.map ofText <| match separator, most with
    | none, none => Text.words s
    | none, some n => blankPieces n [] s.toList
    | some separator, none => pieces separator s
    | some separator, some n => limitPieces separator n (pieces separator s)

def replace : Tool := .of do
  let s ← Take.text
  let old ← Take.text
  let new ← Take.text
  pure (.ok (ofText (new.intercalate (pieces old s))))

def trim : Tool := .of do
  let s ← Take.text
  let chars ← Take.text?
  pure <| .ok <| ofText <| match chars with
    | none => Text.trim s
    | some chars => String.ofList (Text.stripBoth (fun c => chars.toList.contains c) s.toList)

/-- The lines of a text without their ends. -/
def linesOf (s : String) : List String :=
  let cut := Text.splitAt '\n' s.toList
  let cut := if cut.getLast? = some [] then cut.dropLast else cut
  cut.map fun line =>
    String.ofList (if line.getLast? = some '\r' then line.dropLast else line)

/-- Puts a joiner between texts, but none in front of the first that is not empty. -/
def joined (joiner : String) (items : List Value) : String :=
  items.foldl (fun acc v => (if acc.isEmpty then acc else acc ++ joiner) ++ v.text) ""

def join : Tool := .of do
  let v ← Take.value
  let joiner ← Take.text?
  pure (v.walk.map fun items => ofText (joined (joiner.getD "") items))

def length : Tool := onValue fun v =>
  match v.length? with
  | some n => .ok (.int n)
  | none => .error .invalidOperation

def default : Tool := .of do
  let v ← Take.value
  let other ← Take.optional .ok
  let lax ← Take.flag?
  let isMissing := v.isUndefined || (lax.getD false && !v.isTrue)
  pure (.ok (if isMissing then other.getD (ofText "") else v))

def round : Tool := .of do
  let v ← Take.value
  let places ← Take.optional Take.asInt
  pure <| match v with
    | .int n => .ok (.int n)
    | .float x =>
      let scale := Binary64.pow (.ofInt 10) (.ofInt (places.getD 0))
      .ok (.float ((scale.mul x).round.div scale))
    | _ => .error .invalidOperation

def abs : Tool := onValue fun
  | .int n => Value.ofInt? n.natAbs
  | .float x => .ok (.float x.abs)
  | _ => .error .invalidOperation

/-- The integer nearest to a number on the side of zero, within the bounds of integers. -/
def clampedInt (x : Binary64) : Int :=
  if x.isInfinite then if x.isNegative then minInt else maxInt
  else max minInt (min maxInt x.truncate)

def int : Tool := onValue fun
  | .undefined | .none => .ok (.int 0)
  | .bool b => .ok (.int (if b then 1 else 0))
  | .int n => .ok (.int n)
  | .float x => .ok (.int (clampedInt x))
  | .str s _ =>
    match Numeral.integer? s.toList, Numeral.float? s.toList with
    | some n, _ => .ok (.int (max minInt (min maxInt n)))
    | none, some x => .ok (.int (clampedInt x))
    | none, none => .error .invalidOperation
  | _ => .error .invalidOperation

def float : Tool := onValue fun
  | .undefined | .none => .ok (.float .zero)
  | .str s _ =>
    match Numeral.float? s.toList with
    | some x => .ok (.float x)
    | none => .error .invalidOperation
  | v =>
    match v.asFloat? true with
    | some x => .ok (.float x)
    | none => .error .invalidOperation

def attr : Tool := .of do
  let v ← Take.value
  let key ← Take.value
  pure (v.part key)

def first : Tool := onValue fun v =>
  match v with
  | .undefined | .none => .error .invalidOperation
  | v => v.walk.map fun items => items.head?.getD .undefined

def last : Tool := onValue fun
  | .str s c => (Value.str s c).walk.map fun items => items.getLast?.getD .undefined
  | .list items | .series items => .ok (items.getLast?.getD .undefined)
  | _ => .error .invalidOperation

def reverse : Tool := onValue fun
  | .undefined => .ok .undefined
  | .none => .ok .none
  | .str s _ => .ok (ofText (String.ofList s.toList.reverse))
  | v => v.walk.map fun items => .series items.reverse

/-- The element that comes first by an order; of equal ones the earliest. -/
def least (before : Value → Value → Bool) : List Value → Value
  | [] => .undefined
  | v :: rest => rest.foldl (fun best v => if before v best then v else best) v

/-- The order of values in which texts are compared without regard to case, unless that is asked
for. -/
def orderIn (caseSensitive : Bool) (a b : Value) : Ordering :=
  match a, b with
  | .str s _, .str t _ =>
    if caseSensitive then compare s t else compare (Text.lowerText s) (Text.lowerText t)
  | a, b => a.order b

/-- Sorts by keys, keeping the order of equal ones. -/
def sortBy (caseSensitive reversed : Bool) (keyed : List (Value × Value)) : List Value :=
  let sorted := keyed.mergeSort fun a b => orderIn caseSensitive a.1 b.1 != .gt
  let items := sorted.map Prod.snd
  if reversed then items.reverse else items

/-- The elements with their keys, which may be named by a path. -/
def keyedBy (path : Option String) (items : List Value) : Except Fault (List (Value × Value)) :=
  items.mapM fun v =>
    match path with
    | some path => (v.partAt path).map (·, v)
    | none => .ok (v, v)

def sort : Tool := .of do
  let v ← Take.value
  let named ← Take.named ["attribute", "case_sensitive", "reverse"]
  pure do
    let items ← v.walk
    let caseSensitive ← flagOf named "case_sensitive"
    let path ← textOf? named "attribute"
    let reversed ← flagOf named "reverse"
    let keyed ← keyedBy path items
    pure (.list (sortBy caseSensitive reversed keyed))

def dictsort : Tool := .of do
  let v ← Take.value
  let named ← Take.named ["by", "case_sensitive", "reverse"]
  pure do
    match v with
    | .map entries =>
      let choice ← textOf? named "by"
      let byValue ← match choice with
        | none | some "key" => pure false
        | some "value" => pure true
        | some _ => throw .invalidOperation
      let caseSensitive ← flagOf named "case_sensitive"
      let reversed ← flagOf named "reverse"
      let keyed := entries.map fun (k, v) => (if byValue then v else k, Value.list [k, v])
      pure (.list (sortBy caseSensitive reversed keyed))
    | _ => throw .invalidOperation

def items : Tool := onValue fun
  | .map entries => .ok (.list (entries.map fun (k, v) => .list [k, v]))
  | _ => .error .invalidOperation

/-- Keeps the first of each group of elements with equal keys. -/
def firsts (caseSensitive : Bool) : List (Value × Value) → List (Value × Value) → List Value
  | [], kept => (kept.map Prod.snd).reverse
  | (k, v) :: rest, kept =>
    if kept.any fun (other, _) => orderIn caseSensitive k other == .eq then
      firsts caseSensitive rest kept
    else firsts caseSensitive rest ((k, v) :: kept)

def unique : Tool := .of do
  let v ← Take.value
  let named ← Take.named ["attribute", "case_sensitive"]
  pure do
    let items ← v.walk
    let caseSensitive ← flagOf named "case_sensitive"
    let path ← textOf? named "attribute"
    let keyed ← keyedBy path items
    pure (.list (firsts caseSensitive keyed []))

/-- Joins neighbours with equal keys. -/
def groups (caseSensitive : Bool) : List (Value × Value) → List (Value × List Value)
  | [] => []
  | (k, v) :: rest =>
    match groups caseSensitive rest with
    | (other, members) :: more =>
      if orderIn caseSensitive k other == .eq then (k, v :: members) :: more
      else (k, [v]) :: (other, members) :: more
    | [] => [(k, [v])]

def groupby : Tool := .of do
  let v ← Take.value
  let path ← Take.text?
  let named ← Take.named ["attribute", "default", "case_sensitive"]
  pure do
    let path ← match path with
      | some path => pure path
      | none =>
        match ← textOf? named "attribute" with
        | some path => pure path
        | none => throw .missingArgument
    let caseSensitive ← flagOf named "case_sensitive"
    let items ← v.walk
    let keyed ← items.mapM fun v => do
      let key ← v.partAt path
      pure (if key.isUndefined then (named.lookup "default").getD .undefined else key, v)
    let sorted := keyed.mergeSort fun a b => orderIn caseSensitive a.1 b.1 != .gt
    pure (.list ((groups caseSensitive sorted).map fun (k, members) => .list [k, .list members]))

/-- Cuts a list into parts of `n` elements, the last of them shorter. The fuel bounds the parts. -/
def chunks (n : Nat) : Nat → List α → List (List α)
  | 0, _ => []
  | _, [] => []
  | fuel + 1, xs => xs.take n :: chunks n fuel (xs.drop n)

def batch : Tool := .of do
  let v ← Take.value
  let n ← Take.count
  let filler ← Take.optional .ok
  pure do
    if n = 0 then throw .invalidOperation
    let items ← v.walk
    pure <| .list <| (chunks n items.length items).map fun part =>
      match filler with
      | some filler => .list (part ++ List.replicate (n - part.length) filler)
      | none => .list part

/-- Cuts a list into `n` parts, of which the first `extra` are longer by one. -/
def shares (size : Nat) : Nat → Nat → List α → List (List α)
  | 0, _, _ => []
  | n + 1, extra, xs =>
    let take := if 0 < extra then size + 1 else size
    xs.take take :: shares size n (extra - 1) (xs.drop take)

def slice : Tool := .of do
  let v ← Take.value
  let n ← Take.count
  let filler ← Take.optional .ok
  pure do
    if n = 0 then throw .invalidOperation
    let items ← v.walk
    let extra := items.length % n
    let parts := shares (items.length / n) n extra items
    pure <| .list <| (parts.zip (List.range n)).map fun (part, i) =>
      match filler with
      | some filler => .list (if extra ≤ i then part ++ [filler] else part)
      | none => .list part

def sum : Tool := onItems fun items =>
  items.foldlM (fun acc v => if v.isUndefined then .ok acc else acc.add v) (.int 0)

/-- Drops the end of the last line. -/
def dropLineEnd (cs : List Char) : List Char :=
  let cs := if cs.getLast? = some '\n' then cs.dropLast else cs
  if cs.getLast? = some '\r' then cs.dropLast else cs

def indent : Tool := .of do
  let s ← Take.text
  let width ← Take.count
  let isFirst ← Take.flag?
  let isBlank ← Take.flag?
  let margin := List.replicate width ' '
  let setIn (line : List Char) : List Char :=
    if line.isEmpty then if isBlank.getD false then margin else [] else margin ++ line
  let lines := Text.splitAt '\n' (dropLineEnd s.toList)
  let lines := match lines with
    | first :: rest => (if isFirst.getD false then setIn first else first) :: rest.map setIn
    | [] => []
  pure (.ok (ofText (String.ofList (dropLineEnd (['\n'].intercalate lines ++ ['\n'])))))

def chain : Tool := .of do
  let first ← Take.value
  let others ← Take.rest
  let all := first :: others
  pure do
    if all.all fun | .map _ => true | _ => false then
      let entries := all.flatMap fun | .map entries => entries | _ => []
      pure (Value.ofPairs entries)
    else
      let parts ← all.mapM Value.walk
      pure (.series parts.flatten)

/-- The `i`-th elements of all lists, as long as there are some. -/
def zipped : Nat → List (List Value) → List Value
  | 0, _ => []
  | n + 1, lists =>
    match lists.mapM List.head? with
    | some heads => .list heads :: zipped n (lists.map List.tail)
    | none => []

def zip : Tool := .of do
  let first ← Take.value
  let others ← Take.rest
  pure do
    let parts ← (first :: others).mapM Value.walk
    pure (.series (zipped ((parts.head?.map List.length).getD 0) parts))

/-- The filters that need nothing but their arguments. -/
def plain : List (String × Tool) := [
  ("safe", onText fun s => .str s true),
  ("escape", onValue fun v => .ok (.str v.escaped true)),
  ("e", onValue fun v => .ok (.str v.escaped true)),
  ("lower", onText fun s => ofText (Text.lowerText s)),
  ("upper", onText fun s => ofText (Text.upperText s)),
  ("title", onText title),
  ("capitalize", onText capitalize),
  ("replace", replace),
  ("length", length),
  ("count", length),
  ("dictsort", dictsort),
  ("items", items),
  ("reverse", reverse),
  ("trim", trim),
  ("join", join),
  ("split", split),
  ("lines", onText fun s => .list ((linesOf s).map ofText)),
  ("default", default),
  ("d", default),
  ("round", round),
  ("abs", abs),
  ("int", int),
  ("float", float),
  ("attr", attr),
  ("first", first),
  ("last", last),
  ("min", onItems fun items => .ok (least (fun a b => a.order b == .lt) items)),
  ("max", onItems fun items => .ok (least (fun a b => a.order b != .lt) items)),
  ("sort", sort),
  ("list", onItems fun items => .ok (.list items)),
  ("string", onValue fun v => .ok (match v with | .str s c => .str s c | v => ofText v.text)),
  ("bool", onValue fun v => .ok (.bool v.isTrue)),
  ("batch", batch),
  ("slice", slice),
  ("sum", sum),
  ("indent", indent),
  ("groupby", groupby),
  ("unique", unique),
  ("chain", chain),
  ("zip", zip),
  ("pprint", onValue fun v => .ok (ofText (v.pretty 0)))]

end Filter

end Template

end Orchestrator
