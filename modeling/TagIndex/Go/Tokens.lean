import TagIndex.Grammar.Rule
import TagIndex.Text.IdentifierRanges

/-! The tokens of Go that have more than one spelling: identifiers, literals and comments. -/

namespace TagIndex.Go
open Text Grammar Grammar.Pattern

/-- An identifier begins with a letter or an underscore. Go's own notion of a letter is a little
narrower than the one used here. -/
def identifier : Pattern :=
  andThen (one (CharSet.ofRanges ((95, 95) :: xidStartRanges)))
    (many (one (CharSet.ofRanges ((95, 95) :: xidContinueRanges))))

def blanks : CharSet := CharSet.ofRanges [(9, 13), (32, 32)]

def newline : Pattern := one (.single '\n')

def decimalDigit : Pattern := one (.range '0' '9')

def octalDigit : Pattern := one (.range '0' '7')

def binaryDigit : Pattern := one (.range '0' '1')

def hexDigit : Pattern :=
  one (.ofRanges [(48, 57), (65, 70), (97, 102)])

def grouped (digit : Pattern) : Pattern :=
  andThen digit (many (andThen (opt (text "_")) digit))

def hexDigits : Pattern := grouped hexDigit

def decimalDigits : Pattern := grouped decimalDigit

def decimalLiteral : Pattern :=
  either (text "0")
    (andThen (one (.range '1' '9')) (opt (andThen (opt (text "_")) decimalDigits)))

def binaryLiteral : Pattern := seq [text "0", among "bB", opt (text "_"), grouped binaryDigit]

def octalLiteral : Pattern := seq [text "0", opt (among "oO"), opt (text "_"), grouped octalDigit]

def hexLiteral : Pattern := seq [text "0", among "xX", opt (text "_"), hexDigits]

def intLiteral : Pattern := anyOf [binaryLiteral, decimalLiteral, octalLiteral, hexLiteral]

def exponent (marks : String) : Pattern := seq [among marks, opt (among "+-"), decimalDigits]

def decimalFloatLiteral : Pattern := anyOf [
  seq [decimalDigits, text ".", opt decimalDigits, opt (exponent "eE")],
  seq [decimalDigits, exponent "eE"],
  seq [text ".", decimalDigits, opt (exponent "eE")]]

def hexMantissa : Pattern := anyOf [
  seq [opt (text "_"), hexDigits, text ".", opt hexDigits],
  seq [opt (text "_"), hexDigits],
  seq [text ".", hexDigits]]

def hexFloatLiteral : Pattern := seq [text "0", among "xX", hexMantissa, exponent "pP"]

def floatLiteral : Pattern := either decimalFloatLiteral hexFloatLiteral

def imaginaryLiteral : Pattern :=
  andThen (anyOf [decimalDigits, intLiteral, floatLiteral]) (text "i")

def runeLiteral : Pattern := seq [
  text "'",
  either (noneOf "'\\") (andThen (text "\\") (anyOf [
    andThen (text "x") (times 2 hexDigit),
    times 3 octalDigit,
    andThen (text "u") (times 4 hexDigit),
    andThen (text "U") (times 8 hexDigit),
    among "abfnrtv\\'\""])),
  text "'"]

/-- An escape inside an interpreted string. Only its extent matters here, so escapes that Go
refuses are let through. -/
def escapeSequence : Pattern := andThen (text "\\") (anyOf [
  noneOf "xuU",
  either (times 2 decimalDigit) (times 3 decimalDigit),
  seq [text "x", times 2 hexDigit, many hexDigit],
  andThen (text "u") (times 4 hexDigit),
  andThen (text "U") (times 8 hexDigit)])

def comment : Pattern :=
  let stars := many1 (text "*")
  let upToStars := andThen (many (noneOf "*")) stars
  either (andThen (text "//") (many (noneOf "\n")))
    (seq [text "/*", upToStars, many (andThen (noneOf "/*") upToStars), text "/"])

/-- Text between back quotes; it reaches over anything, so it outranks other tokens. -/
def rawStringContent : Lexeme := ⟨none, many (noneOf "\x60"), false, 1⟩

def interpretedStringContent : Lexeme := ⟨none, many1 (noneOf "\"\n\\"), true, 1⟩

def closingQuote : Lexeme := ⟨some "\"", text "\"", true, 0⟩

end TagIndex.Go
