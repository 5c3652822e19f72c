import Web3Id.Library.Pattern

/-
This file is the account balance on the main page of the issuer front end.
-/

namespace Web3Id.FrontEnd

open Library

/-- The amount counts the micro CCD of the account. -/
structure AccountInfo where
  microCcdAmount : Nat
  deriving DecidableEq, Repr

/-- The state of the page that the balance effects write. -/
structure Main where
  accountBalance : String
  viewErrorAccountBalance : String
  accountExistsOnNetwork : Bool
  deriving DecidableEq, Repr

namespace Main

def loaded : Main := ⟨"", "", true⟩

/-- Both effects handle the reply to `getAccountInfo` in the same way. -/
def getAccountInfo (main : Main) : Except String (Option AccountInfo) → Main
  | .ok (some value) =>
      { accountBalance := toString value.microCcdAmount
        accountExistsOnNetwork := true
        viewErrorAccountBalance := "" }
  | .ok none => { main with viewErrorAccountBalance := "" }
  | .error message =>
      { accountBalance := ""
        viewErrorAccountBalance := message.replace "%20" " "
        accountExistsOnNetwork := false }

def digit : Pattern := .one Char.isDigit

/-- The pattern `/(\d)(?=(\d\d\d\d\d\d)+(?!\d))/g`. -/
def separatorPattern : Pattern :=
  .sequence digit (.ahead (.sequence (digit.times 6).oneOrMore digit.notAhead))

/-- The first group of the pattern is all that a match takes. -/
def formattedBalance (main : Main) : String :=
  .ofList (separatorPattern.replaceAll (· ++ ['.']) main.accountBalance.toList)

end Main

end Web3Id.FrontEnd
