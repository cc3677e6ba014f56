import Bnbr.Formats
import Bnbr.Jumelles

namespace Bnbr.Serveur

open CArray CString Decimal

variable {g : GameT} {s : List Char}

end Bnbr.Serveur
