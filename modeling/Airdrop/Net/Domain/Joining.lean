import Airdrop.Text.Composition
import Airdrop.Text.Mark

/-!
# Net/Domain/Joining — where two invisible characters make a difference

The joiner U+200D and the non-joiner U+200C are not seen themselves, only what they do to their
neighbours.  A domain may have them **only where they do something**: behind a sign that takes the
vowel from a letter, and the non-joiner also between letters that would otherwise join.
-/

namespace Airdrop.Net.Domain

open Text

/-- How a letter joins with those beside it. -/
inductive Joining
  /-- With the one behind it. -/
  | left
  /-- With the one before it. -/
  | right
  | both
  /-- It is looked through. -/
  | transparent
  deriving DecidableEq

namespace Joining

/-- The way of joining that a letter stands for. -/
def ofLetter? : List Char → Option Joining
  | ['l'] => some .left
  | ['r'] => some .right
  | ['d'] => some .both
  | ['t'] => some .transparent
  | _ => none

/-- How letters join.  What is listed of marks without space of their own does not count: they are
looked through. -/
def table : CharTable Joining := .ofText ofLetter? "
  620:d 622-625:r 626:d 627:r 628:d 629:r 62a-62e:d 62f-632:r 633-63f:d 641-647:d 648:r 649-64a:d
  66e-66f:d 671-673:r 679-687:d 688-699:r 69a-6bf:d 6c0:r 6c1-6c2:d 6c3-6cb:r 6cc:d 6cd:r 6ce:d
  6cf:r 6d0-6d1:d 6d2-6d3:r 6d5:r 6ee-6ef:r 6fa-6fc:d 6ff:d 710:r 712-714:d 715-719:r 71a-71d:d
  71e:r 71f-727:d 728:r 729:d 72a:r 72b:d 72c:r 72d-72e:d 72f-74d:r 74e-758:d 759-75b:r 75c-76a:d
  76b-76c:r 76d-770:d 771:r 772:d 773-774:r 775-777:d 778-779:r 77a-77f:d 7ca-7ea:d 840:r
  841-845:d 846-847:r 848:d 849:r 84a-853:d 854:r 855:d 856-858:r 860:d 862-865:d 867:r 868:d
  869-882:r 886:d 889-88d:d 88e:r 88f-8a9:d 8aa-8ac:r 8ae:r 8af-8b0:d 8b1-8b2:r 8b3-8b8:d 8b9:r
  8ba-8c8:d 1807:d 1820-1878:d 1887-18aa:d a840-a871:d a872:l 10ac0-10ac4:d 10ac5:r 10ac7:r
  10ac9-10aca:r 10acd:l 10ace-10ad2:r 10ad3-10ad6:d 10ad7:l 10ad8-10adc:d 10add:r 10ade-10ae0:d
  10ae1:r 10ae4:r 10aeb-10aee:d 10aef:r 10b80:d 10b81:r 10b82:d 10b83-10b85:r 10b86-10b88:d
  10b89:r 10b8a-10b8b:d 10b8c:r 10b8d:d 10b8e-10b8f:r 10b90:d 10b91:r 10ba9-10bac:r 10bad-10bae:d
  10d00:l 10d01-10d21:d 10d22:r 10d23:d 10ec2:r 10ec3-10ec4:d 10ec6-10ec7:d 10f30-10f32:d 10f33:r
  10f34-10f44:d 10f51-10f53:d 10f54:r 10f70-10f73:d 10f74-10f75:r 10f76-10f81:d 10fb0:d
  10fb2-10fb3:d 10fb4-10fb6:r 10fb8:d 10fb9-10fba:r 10fbb-10fbc:d 10fbd:r 10fbe-10fbf:d 10fc1:d
  10fc2-10fc3:r 10fc4:d 10fc9:r 10fca:d 10fcb:l 1e922-1e943:d 1e94b:t"

end Joining

/-- **How a character joins**, if it does. -/
def joining? (c : Char) : Option Joining :=
  if isNonspacing c then some .transparent else Joining.table.get? c

/-- Whether the first character that is not looked through joins in a way that is wanted. -/
def meets (wanted : Joining) (text : List Char) : Bool :=
  match (text.map joining?).dropWhile (· == some .transparent) with
  | some joining :: _ => joining == wanted || joining == .both
  | _ => false

/-- Whether a joiner may stand behind one text, given backwards, and before another. -/
def joinerFits (c : Char) (before after : List Char) : Bool :=
  match before with
  | [] => false
  | last :: _ =>
    Composition.attachment last == Composition.viramaAttachment ||
      (c == '\u200c' && meets .left before && meets .right after)

/-- **Whether every joiner of a text may stand where it does**; `before` is the text before,
backwards. -/
def joinersFit (before : List Char) : List Char → Bool
  | [] => true
  | c :: rest =>
    (if c == '\u200c' || c == '\u200d' then joinerFits c before rest else true) &&
      joinersFit (c :: before) rest

end Airdrop.Net.Domain
