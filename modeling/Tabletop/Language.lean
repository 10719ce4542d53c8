import Tabletop.Text.Blank
import Tabletop.Text.LetterCase

/-!
The languages of the output and their phrases. A phrase that a language lacks is said in English,
and a key that names no phrase stands for itself. Parameters are written between doubled braces.
-/
namespace Tabletop

inductive Language where
  | english | french
  deriving DecidableEq

inductive Phrase where
  | success | failure | criticalSuccess | criticalFailure | computedWith | invalidDice | notARoll
  deriving DecidableEq

namespace Phrase

def all : List Phrase :=
  [success, failure, criticalSuccess, criticalFailure, computedWith, invalidDice, notARoll]

def key : Phrase → Text
  | success => "roll.success"
  | failure => "roll.failure"
  | criticalSuccess => "roll.critical_success"
  | criticalFailure => "roll.critical_failure"
  | computedWith => "roll.computed_with"
  | invalidDice => "error.invalid_dice"
  | notARoll => "error.not_a_roll"

def ofKey? (key : Text) : Option Phrase := all.find? fun phrase => phrase.key = key

end Phrase

namespace Language

def all : List Language := [english, french]

def code : Language → Text
  | english => "en"
  | french => "fr"

def ofCode? (text : Text) : Option Language :=
  let code := Text.lowercase (text.trim.takeWhile fun c => c ≠ '-' && c ≠ '_')
  all.find? fun language => language.code = code

def unknownMessage (text : Text) : Text := "no translations for locale \"" ++ text ++ ['"']

def slot (name : Text) : Text := ['\x7b', '\x7b'] ++ name ++ ['\x7d', '\x7d']

def words? : Language → Phrase → Option Text
  | english, .success => some "Success".toList
  | english, .failure => some "Failure".toList
  | english, .criticalSuccess => some "Critical success".toList
  | english, .criticalFailure => some "Critical failure".toList
  | english, .computedWith => some ("Computed with " ++ slot "stats")
  | english, .invalidDice => some ("Invalid dice: " ++ slot "dice")
  | english, .notARoll => some ("No dice to roll in \"" ++ slot "input" ++ ['"'])
  | french, .success => some "Réussite".toList
  | french, .failure => some "Échec".toList
  | french, .criticalSuccess => some "Réussite critique".toList
  | french, .criticalFailure => some "Échec critique".toList
  | french, .computedWith => some ("Calculé avec " ++ slot "stats")
  | french, .invalidDice => some ("Dés invalides : " ++ slot "dice")
  | french, .notARoll => none

def filled (parameters : List (Text × Text)) (text : Text) : Text :=
  parameters.foldl (fun text (name, value) => Text.replaced (slot name) value text) text

def sayKey (language : Language) (key : Text) (parameters : List (Text × Text)) : Text :=
  let words :=
    (Phrase.ofKey? key).bind fun phrase => language.words? phrase <|> english.words? phrase
  filled parameters (words.getD key)

def say (language : Language) (phrase : Phrase) (parameters : List (Text × Text)) : Text :=
  language.sayKey phrase.key parameters

/-- The phrase without parameters whose words in some language a text is, case and blanks at the
ends apart. -/
def phraseOf? (text : Text) : Option Phrase :=
  let sought := text.trim.lowercase
  Phrase.all.find? fun phrase =>
    all.any fun language => (language.words? phrase).any fun words =>
      !words.includes ['\x7b', '\x7b'] && words.lowercase = sought

end Language
end Tabletop
