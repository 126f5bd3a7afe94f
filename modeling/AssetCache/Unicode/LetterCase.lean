import AssetCache.Unicode.Run

/-!
# Letters in lower case

Every letter with a case has a form in lower case. It hangs on the letter alone,
with one exception: a capital sigma at the end of a word becomes the final sigma.
The kinds of the runs of the mapping are those of host names.
-/

set_option autoImplicit false

namespace AssetCache.Unicode

/-- The forms of letters in lower case. -/
def lowerForms : List Run :=
  Run.table [
    "0V 21P10 qV 35P10 nV 1P10 7V 11E 1gM39,o7 1E 7O hE 1fN3p 1O 6V 2P6i 1E 4P6e 1O 2P6d 2O 2V",
    "1P2f 1P6a 1P6b 1O 2P6d 1P6f 1V 1P6j 1P6h 1E 2V 2P6j 1P6l 1V 1P6m 1E 6P6q 1O 2P6q 1V 2E 2P6q",
    "1O 2P6p 2O 4P6r 1E 2V 2E 2V 6P2 1O 2P2 1E 2P2 1O iE jV 1P2 1E 4N31 1N1o 1E 18N42 1E jV 6Pahb",
    "1O 2N53 1Pah8 1V 2O 2N63 1P25 1P27 1E aV 90E 4V 2E 2V 7P3k 1V 6P16 1V 1P15 3V 1P20 1V 1P1v",
    "2V 1P10 hV 1P10 9V 13P8 1V 8E oV 4N1s 1V 2O 2N7 1E 2V 1N42 3P2g gP10 10V 1gE 12V 8E 1mPf 1O",
    "eE 31V 1P1g 16V 2q9P730 16V 1P730 1V 5P730 1V miP15ug 2gP8 6V 24qN2u0 1bV 2N2u0 3V a0E 4mV",
    "8N7dv 1E 31V 8N8 8V 8N8 6V aN8 8V 8N8 8V 8N8 6V bN8 1V 1N8 1V 1N8 1V 1N8 1V 8N8 8V oN8 8V",
    "8N8 8V 8N8 8V 8N8 2N2a 2N9 1V bN2m 4N9 1V bN8 2N34 2V cN8 2N3g 2N7 1V bN40 2N3u 2N9 1V",
    "99N7at 1V 3N85v 1N826 1V 6Ps 1V 1dPg gV jO 2V phPq qV 1pgP1g 1gV 1gE 2Nafn 1N3n6 1Naf7 1V 2O",
    "6Nags 1Naft 1Nagv 1Nagu 1E 3O 3V 7Nahv 2E 34V 7O 4V 3E 2V uacE 1eV iE sV 46E eV 2E 1uV 9O",
    "4N12g4 1E aV 3O 2N1998 1V 2E 4V 2E kN19a4 1N19af 1N19ab 1N19a1 1N19a4 1V 1N198i 1N199a",
    "1N198l 1Pt0 1E gN1g 1N19a3 1N12ho 1O 4V 5E 2V 4E 4V rO 2V lpaP10 qV 165P18 18V 48P18 14V",
    "4sP17 bV 1P17 fV 1P17 7V 1P17 2V 1naP20 1jV 2vdP10 10V lc0P10 10V ul0P12 12V"]

/-- Where letters that have a case begin (`Y`) and end (`N`). -/
def casedLetters : List Run :=
  Run.table [
    "21Y qN 6Y qN 1fY 1N aY 1N 4Y 1N 5Y nN 1Y vN 1Y 63N 1Y 4N 4Y 6gN 1Y 14N 7Y 2N uY 5N 30Y 1N",
    "1aY 4N 2Y 2N 2Y 4N 1Y 1N 6Y 1N 1Y 3N 1Y 1N 1Y kN 1Y 2jN 1Y 4bN 8Y 56N 1Y 16N 9Y 19N 2onY 16N",
    "1Y 1N 5Y 1N 2Y 1bN 1Y 4N l0Y 2mN 2Y 6N 242Y 9N 7Y 1bN 2Y 3N 20Y 60N 20Y 8mN 2Y 6N 2Y 16N 2Y",
    "6N 2Y 8N 1Y 1N 1Y 1N 1Y 1N 1Y vN 2Y 1lN 1Y 7N 1Y 1N 3Y 3N 1Y 7N 3Y 4N 2Y 6N 4Y dN 5Y 3N 1Y",
    "7N 3kY 1N dY 1N gY dN 35Y 1N 4Y 1N 2Y aN 1Y 1N 3Y 5N 6Y 1N 1Y 1N 1Y 1N 1Y 4N 1Y 6N 4Y 1N 2Y",
    "4N 5Y 5N 4Y 1N hY 10N 3Y 2N phY 1kN 1omY 75N 6Y 4N 3Y 2N cY 16N 1Y 1N 5Y 1N u8iY 1eN iY uN",
    "44Y 36N 3Y 4N 1Y 1rN 5Y 2N 1Y 1N 1Y 5N oY 5N 1Y 3N plY 1bN 1Y eN 6Y 2gN jq0Y 7N cY 5N 109Y",
    "qN 6Y qN 155Y 2gN 30Y 14N 4Y 14N 3kY bN 1Y fN 1Y 7N 1Y 2N 1Y bN 1Y fN 1Y 7N 1Y 2N e3Y 1N 2Y",
    "3N 1Y 1aN 1Y 9N 165Y 1jN dY 1jN 2tdY 20N lb0Y 20N pc0Y 2lN 1Y 27N 1Y 2N 2Y 1N 2Y 2N 2Y 4N 1Y",
    "cN 1Y 1N 1Y 7N 1Y 21N 1Y 4N 2Y 8N 1Y 7N 1Y sN 1Y 4N 1Y 5N 1Y 1N 3Y 7N 1Y akN 2Y pN 1Y pN 1Y",
    "vN 1Y pN 1Y vN 1Y pN 1Y vN 1Y pN 1Y vN 1Y pN 1Y 8N 1pkY aN 1Y kN 6Y 6N 85Y 1uN 24iY 24N 1vcY",
    "qN 6Y qN 6Y qN"]

/-- Where characters that are passed over in a word begin (`Y`) and end (`N`). -/
def caseIgnored : List Run :=
  Run.table [
    "17Y 1N 6Y 1N bY 1N 13Y 1N 1Y 1N 27Y 1N 4Y 1N 1Y 1N 4Y 1N 2Y 2N fnY 60N 4Y 2N 4Y 1N 9Y 2N 1Y",
    "1N 7rY 7N 6fY 1N 5Y 1N 1hY 1dN 1Y 1N 1Y 2N 1Y 2N 1Y 1N 1cY 1N bY 6N aY bN 1Y 1N 13Y 1N aY lN",
    "gY 1N 35Y 8N 1Y aN 1Y 4N 11Y 1N 1Y 1N uY rN 2rY bN 1qY bN 4Y 1N 2Y 1N oY oN 1bY 3N 1cY 1N 7Y",
    "2N 6Y 8N 19Y 1qN 1nY 1N 1Y 1N 4Y 8N 4Y 1N 3Y 7N aY 2N dY 1N fY 1N 1qY 1N 4Y 4N 8Y 1N kY 2N",
    "qY 1N 2Y 2N 1pY 1N 4Y 2N 4Y 2N 2Y 3N 3Y 1N uY 2N 3Y 1N bY 2N 1pY 1N 4Y 5N 1Y 2N 4Y 1N kY 2N",
    "mY 6N 1Y 1N 1qY 1N 2Y 1N 1Y 4N 8Y 1N 7Y 2N bY 2N uY 1N 1tY 1N cY 1N 1iY 1N 3Y 1N 1nY 1N 1Y",
    "3N 5Y 3N 1Y 4N 7Y 2N bY 2N tY 1N 1qY 1N 2Y 1N 6Y 1N 5Y 2N kY 2N sY 2N 1pY 2N 4Y 4N 8Y 1N kY",
    "2N tY 1N 28Y 1N 7Y 3N 1Y 1N 2qY 1N 2Y 7N bY 9N 32Y 1N 2Y 9N 9Y 1N 1Y 7N 29Y 2N rY 1N 1Y 1N",
    "1Y 1N 1nY eN 1Y 5N 1Y 2N 5Y bN 1Y 14N 9Y 1N 36Y 4N 1Y 6N 1Y 2N 2Y 2N pY 2N 4Y 3N gY 4N dY 1N",
    "2Y 2N 6Y 1N fY 1N 2uY 1N j0Y 3N tiY 3N tY 2N uY 2N uY 2N 20Y 2N 1Y 7N 8Y 1N 2Y bN 3Y 1N 5Y",
    "1N 1dY 5N 1jY 1N 21Y 2N 12Y 1N 3mY 3N 4Y 2N 9Y 1N 6Y 3N 6rY 2N 2Y 1N 1qY 1N 1Y 7N 1Y 1N 1Y",
    "1N 2Y 8N 6Y aN 2Y 1N 17Y 1N 8Y vN 1hY 4N 1gY 1N 1Y 5N 1Y 1N 5Y 1N 18Y 9N cY 2N 10Y 4N 2Y 2N",
    "1Y 3N 1oY 1N 1Y 2N 3Y 1N 1Y 3N 1qY 8N 2Y 2N 20Y 6N 2iY 3N 1Y dN 1Y 7N 4Y 1N 6Y 1N 3Y 2N 1iY",
    "1vN dY 1N 12Y 35N dtY 1N 1Y 3N bY 3N dY 3N dY 3N dY 2N cY 5N 8Y 2N aY 1N 2Y 1N 2Y 5N 1hY 5N",
    "1Y aN 1Y 1N dY 1N gY dN 1jY 11N 2sbY 2N 3hY 3N 3tY 1N fY 1N 30Y 10N 1fY 1N elY 1N 14Y 4N 3Y",
    "5N 5Y 1N 2tY 6N 2tY 3N romY 1N 172Y 6N 8eY 1N 32Y 4N 1Y aN 1Y 1N sY 4N 2gY 2N eY 12N 2eY 1N",
    "nY 3N 37Y 3N 3Y 2N 8Y 1N 3Y 1N 4Y 1N pY 2N 5Y 1N 4nY 2N qY iN dY 1N 16Y 8N pY bN 1eY 3N 1gY",
    "1N 2Y 4N 2Y 2N hY 1N lY 2N 22Y 6N 2Y 2N 2Y 2N cY 1N 8Y 1N 13Y 1N bY 1N 1jY 1N 1Y 3N 2Y 2N 5Y",
    "2N 1Y 1N rY 1N eY 2N 5Y 2N 1Y 1N 34Y 5N 9Y 3N 3pY 1N 2Y 1N 4Y 1N jpgY 1N 4jY hN htY gN 3Y 1N",
    "cY gN 12Y 1N 2Y 1N 59Y 1N 7Y 1N 6Y 1N bY 1N 13Y 1N 1Y 1N 1fY 1N 1dY 2N 23Y 1N lY 3N g1Y 1N",
    "72Y 1N 4lY 5N 105Y 6N 1Y 1aN 1Y 9N i6Y 3N 1Y 2N 5Y 4N 18Y 3N 4Y 1N 55Y 2N htY 4N c3Y 2N 2gY",
    "3N 26Y bN 1hY 4N 3rY 1N 1mY fN 19Y 1N 2Y 2N aY 3N 1hY 4N 2Y 2N 2Y 1N 4Y 1N aY 1N 1iY 3N 14Y",
    "5N 1Y 8N 1uY 1N cY 2N 1kY 9N aY 4N 2Y 1N 2vY 3N 2Y 1N 1Y 2N 6Y 1N 2Y 1N 4tY 1N 3Y 8N lY 2N",
    "1pY 2N 3Y 1N 15Y 7N 3Y 5N 63Y 8N 2Y 3N 1Y 1N nY 1N 2kY 6N 1Y 1N 4Y 2N 1Y 2N 7eY 4N 6Y 2N 1Y",
    "2N rY 2N 2lY 8N 2Y 1N 1Y 2N 3aY 1N 1Y 1N 2Y 6N 1Y 1N 35Y 3N 2Y 4N 1Y 5N 83Y 9N 1Y 2N 80Y 2N",
    "1Y 1N 4Y 1N 4gY 4N 2Y 2N 4Y 1N 10Y aN 18Y 6N 2Y 4N 8Y 1N 9Y 6N 2Y 3N 1eY dN 1Y 2N cmY 7N 1Y",
    "6N 1Y 1N 2iY mN 2Y 7N 1Y 2N 1Y 2N 3qY 6N 3Y 1N 1Y 2N 1Y 7N 1Y 1N 28Y 2N 3Y 1N 1Y 1N arY 2N",
    "bY 2N 1kY 5N 5Y 1N 1Y 1N 57dY hN 6Y fN dkqY 5N 1rY 7N 9Y 4N 10bY 1N 1vY hN 20Y 2N 1Y 2N g0bY",
    "4N 1Y 7N 1Y 2N 34uY 2N 1Y 4N 4isY 1eN 2Y nN h0Y 3N 9Y gN 2Y 7N uY 4N 4kY 3N 1trY 1nN 4Y 1iN",
    "8Y 1N eY 1N mY 5N 1Y fN 1agY 7N 1Y hN 2Y 7N 1Y 2N 1Y 5N 5Y 1uN 11Y 1N 50Y eN bgY 1N 1tY 4N",
    "frY 5N v0Y 7N 3dY 8N 2lfY 5N o301Y 1N uY 30N 40Y 7gN"]

/-- Whether a letter has a case. -/
def isCased (c : Char) : Bool := Run.kindAt casedLetters c == 'Y'

/-- Whether a character is passed over in a word. -/
def isCaseIgnored (c : Char) : Bool := Run.kindAt caseIgnored c == 'Y'

/-- A letter in lower case, wherever it stands. -/
def lowerForm (c : Char) : List Char :=
  let n := c.toNat
  match Run.find? n lowerForms with
  | none => [c]
  | some run =>
    match run.kind, run.values with
    | 'M', values => values.map Char.ofNat
    | 'P', [offset] => [Char.ofNat (n + offset)]
    | 'N', [offset] => [Char.ofNat (n - offset)]
    | 'E', _ => if n % 2 = 0 then [Char.ofNat (n + 1)] else [c]
    | 'O', _ => if n % 2 = 1 then [Char.ofNat (n + 1)] else [c]
    | _, _ => [c]

/-- Whether a letter with a case comes first of what is not passed over. -/
def meetsCased (text : List Char) : Bool :=
  match text.dropWhile isCaseIgnored with
  | [] => false
  | c :: _ => isCased c

/-- A text in lower case; what comes before is given nearest first. -/
def lowerFrom (before : List Char) : List Char → List Char
  | [] => []
  | c :: rest =>
    (if c.toNat = 0x3a3 then
        if meetsCased before && !meetsCased rest then [Char.ofNat 0x3c2] else [Char.ofNat 0x3c3]
      else lowerForm c) ++ lowerFrom (c :: before) rest

/-- A text in lower case. -/
def lower (text : String) : String := String.ofList (lowerFrom [] text.toList)

end AssetCache.Unicode
