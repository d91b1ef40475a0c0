import Descent.Unicode.Category
import Descent.Unicode.Property
import Descent.Unicode.Table

/-!
# Revised properties

The tables of properties hold version 16.0 of Unicode, by which patterns go. Text goes by version 17.0, which assigns
more characters and takes one small letter for a letter without case.

* `Revised.category`: the category of a code point in version 17.0
* `Revised.alphabetic`, `cased`, `caseIgnorable`, `graphemeExtend`: properties in version 17.0
-/

namespace Descent.Revised

/-- The code points whose category is another one than before, with the new category. -/
def categories : List ((Nat × Nat) × Category) :=
  (Table.labelled
    "295:Lo 88f:Lo c5c:Lo cdc:Lo 1acf-1add:Mn 1ae0-1aeb:Mn 20c1:Sc 2b96:So a7ce:Lu a7cf:Ll a7d2:Lu
    a7d4:Lu a7f1:Lm fbc3-fbd2:So fd90-fd91:So fdc8-fdce:So 10940-10959:Lo 10ec5:Lm 10ec6-10ec7:Lo
    10ed0:Po 10ed1-10ed8:So 10efa-10efb:Mn 11b60:Mn 11b61:Mc 11b62-11b64:Mn 11b65:Mc 11b66:Mn
    11b67:Mc 11db0-11dd8:Lo 11dd9:Lm 11dda-11ddb:Lo 11de0-11de9:Nd 16ea0-16eb8:Lu 16ebb-16ed3:Ll
    16ff2-16ff3:Lm 16ff4-16ff6:Nl 187f8-187ff:Lo 18d09-18d1e:Lo 18d80-18df2:Lo 1ccfa-1ccfc:So
    1ceba-1ced0:So 1cee0-1ceef:So 1cef0:Sm 1e6c0-1e6de:Lo 1e6e0-1e6e2:Lo 1e6e3:Mn 1e6e4-1e6e5:Lo
    1e6e6:Mn 1e6e7-1e6ed:Lo 1e6ee-1e6ef:Mn 1e6f0-1e6f4:Lo 1e6f5:Mn 1e6fe:Lo 1e6ff:Lm 1f6d8:So
    1f777-1f77a:So 1f8d0-1f8d8:Sm 1fa54-1fa57:So 1fa8a:So 1fa8e:So 1fac8:So 1facd:So 1faea:So
    1faef:So 1fbfa:So 2b73a-2b73f:Lo 2cea2-2cead:Lo 323b0-33479:Lo").map fun e =>
    (e.1, (Category.ofAbbreviation? (e.2.headD "")).getD .unassigned)

/-- The category of a code point. -/
def category (n : Nat) : Category :=
  match categories.find? fun e => e.1.1 ≤ n && n ≤ e.1.2 with
  | some e => e.2
  | none => Category.of n

/-- A property whose members are others than before at the code points that a text lists. -/
def change (before : CodeSet) (s : String) : CodeSet := before.symmDiff CodeSet.lastChar (.ofText s)

def alphabetic : CodeSet := change Property.alphabetic
  "88f c5c cdc a7ce-a7cf a7d2 a7d4 a7f1 10940-10959 10ec5-10ec7 10efa-10efb 11b60-11b67 11db0-11ddb
  16ea0-16eb8 16ebb-16ed3 16ff2-16ff6 187f8-187ff 18d09-18d1e 18d80-18df2 1e6c0-1e6de 1e6e0-1e6f5
  1e6fe-1e6ff 2b73a-2b73f 2cea2-2cead 323b0-33479"

def cased : CodeSet := change Property.cased
  "295 a7ce-a7cf a7d2 a7d4 a7f1 16ea0-16eb8 16ebb-16ed3"

def caseIgnorable : CodeSet := change Property.caseIgnorable
  "1acf-1add 1ae0-1aeb a7f1 10ec5 10efa-10efb 11b60 11b62-11b64 11b66 11dd9 16ff2-16ff3 1e6e3 1e6e6
  1e6ee-1e6ef 1e6f5 1e6ff"

def graphemeExtend : CodeSet := change Property.graphemeExtend
  "1acf-1add 1ae0-1aeb 10efa-10efb 11b60 11b62-11b64 11b66 1e6e3 1e6e6 1e6ee-1e6ef 1e6f5"

end Descent.Revised
