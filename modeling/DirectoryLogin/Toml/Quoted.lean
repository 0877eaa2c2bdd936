import DirectoryLogin.Text.Octets

/-!
# Quoted texts in TOML

Four kinds of quoted text: basic and literal, on one line or over several. Basic texts have escapes;
a text over several lines loses the line end right after its opening quotes, and a backslash at the
end of a line joins it to the next text.
-/

namespace DirectoryLogin.Toml

/-- Characters that may stand for themselves: no controls but the tabulator. -/
def isPlain (c : Char) : Bool := c == '\t' || (0x20 ≤ c.toNat && c.toNat != 0x7F)

def isSpace (c : Char) : Bool := c == ' ' || c == '\t'

/-- The character with a code of exactly `n` hexadecimal digits at the front. -/
def coded? (n : Nat) (cs : List Char) : Option (Char × List Char) := do
  let ds := cs.take n
  let code ← Text.hexNumber? ds
  if ds.length = n ∧ (code < 0xD800 ∨ (0xDFFF < code ∧ code < 0x110000)) then
    some (Char.ofNat code, cs.drop n)
  else none

/-- The character that an escape stands for, after the backslash. -/
def escape? : List Char → Option (Char × List Char)
  | 'b' :: rest => some ('\x08', rest)
  | 't' :: rest => some ('\t', rest)
  | 'n' :: rest => some ('\n', rest)
  | 'f' :: rest => some ('\x0c', rest)
  | 'r' :: rest => some ('\r', rest)
  | 'e' :: rest => some ('\x1b', rest)
  | '"' :: rest => some ('"', rest)
  | '\\' :: rest => some ('\\', rest)
  | 'x' :: rest => coded? 2 rest
  | 'u' :: rest => coded? 4 rest
  | 'U' :: rest => coded? 8 rest
  | _ => none

/-- The rest after a line end. -/
def lineBreak? : List Char → Option (List Char)
  | '\n' :: rest => some rest
  | '\r' :: '\n' :: rest => some rest
  | _ => none

def skipLines : List Char → List Char
  | ' ' :: rest => skipLines rest
  | '\t' :: rest => skipLines rest
  | '\n' :: rest => skipLines rest
  | '\r' :: '\n' :: rest => skipLines rest
  | cs => cs

/-- The text after a backslash that ends its line. -/
def joined? (cs : List Char) : Option (List Char) :=
  (lineBreak? (cs.dropWhile isSpace)).map skipLines

/-- A basic text after its opening quote. -/
def basic? : Nat → List Char → Option (List Char × List Char)
  | 0, _ => none
  | fuel + 1, cs =>
      match cs with
      | [] => none
      | '"' :: rest => some ([], rest)
      | '\\' :: rest => do
          let (c, rest) ← escape? rest
          let (body, rest) ← basic? fuel rest
          return (c :: body, rest)
      | c :: rest =>
          if isPlain c then do
            let (body, rest) ← basic? fuel rest
            return (c :: body, rest)
          else none

def literal? : List Char → Option (List Char × List Char)
  | [] => none
  | '\'' :: rest => some ([], rest)
  | c :: rest =>
      if isPlain c then do
        let (body, rest) ← literal? rest
        return (c :: body, rest)
      else none

/-- The end of a text over several lines: three quotes, before which up to two more belong to the
text. -/
def closing? (quote : Char) (cs : List Char) : Option (List Char × List Char) :=
  let n := min 5 (cs.takeWhile (· == quote)).length
  if 3 ≤ n then some (List.replicate (n - 3) quote, cs.drop n) else none

/-- A basic text over several lines, after its opening quotes. -/
def basicLines? : Nat → List Char → Option (List Char × List Char)
  | 0, _ => none
  | fuel + 1, cs =>
      match closing? '"' cs with
      | some found => some found
      | none =>
          match cs with
          | [] => none
          | '\\' :: rest =>
              match joined? rest with
              | some rest => basicLines? fuel rest
              | none => do
                  let (c, rest) ← escape? rest
                  let (body, rest) ← basicLines? fuel rest
                  return (c :: body, rest)
          | '\r' :: '\n' :: rest => do
              let (body, rest) ← basicLines? fuel rest
              return ('\r' :: '\n' :: body, rest)
          | c :: rest =>
              if c = '\n' ∨ isPlain c then do
                let (body, rest) ← basicLines? fuel rest
                return (c :: body, rest)
              else none

/-- A literal text over several lines, after its opening quotes. -/
def literalLines? : Nat → List Char → Option (List Char × List Char)
  | 0, _ => none
  | fuel + 1, cs =>
      match closing? '\'' cs with
      | some found => some found
      | none =>
          match cs with
          | [] => none
          | '\r' :: '\n' :: rest => do
              let (body, rest) ← literalLines? fuel rest
              return ('\r' :: '\n' :: body, rest)
          | c :: rest =>
              if c = '\n' ∨ isPlain c then do
                let (body, rest) ← literalLines? fuel rest
                return (c :: body, rest)
              else none

def dropLineBreak (cs : List Char) : List Char := (lineBreak? cs).getD cs

def quotedLine? : List Char → Option (List Char × List Char)
  | '"' :: rest => basic? (rest.length + 1) rest
  | '\'' :: rest => literal? rest
  | _ => none

def quoted? : List Char → Option (List Char × List Char)
  | '"' :: '"' :: '"' :: rest => basicLines? (rest.length + 1) (dropLineBreak rest)
  | '\'' :: '\'' :: '\'' :: rest => literalLines? (rest.length + 1) (dropLineBreak rest)
  | cs => quotedLine? cs

end DirectoryLogin.Toml
