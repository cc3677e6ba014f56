import Bnbr.Clib.Arrays
import Bnbr.Clib.Loops
import Bnbr.Clib.Strings
import Bnbr.Clib.Decimal
import Bnbr.Clib.Scanf
import Bnbr.Clib.Frames
import Bnbr.Clib.Sessions
import Bnbr.Clib.Elimination
import Bnbr.Clib.Runs
import Bnbr.Clib.Accesses
import Bnbr.Clib.Layout
import Bnbr.Donnees
import Bnbr.Requete
import Bnbr.Champs
import Bnbr.Transport
import Bnbr.Plateau
import Bnbr.Tir
import Bnbr.Atomicite
import Bnbr.Bataille
import Bnbr.Representation
import Bnbr.Placement
import Bnbr.Reference
import Bnbr.Collecte
import Bnbr.Service
import Bnbr.Validation
import Bnbr.Diffusion
import Bnbr.Verdict
import Bnbr.Partie
import Bnbr.FinCommune
import Bnbr.Decodage
import Bnbr.Synchronisation
import Bnbr.Ecran
import Bnbr.Joueur
import Bnbr.Hote
import Bnbr.Protocole
import Bnbr.Loyal
import Bnbr.Regulier
import Bnbr.Systeme
import Bnbr.Progres
import Bnbr.Parcours
import Bnbr.Conformite
import Bnbr.Realisation
import Bnbr.Survie
import Bnbr.Concordance
import Bnbr.Vainqueur
import Bnbr.Codec
import Bnbr.Memoire
import Bnbr.Inscription
import Bnbr.Formats
import Bnbr.Salon
import Bnbr.Ouverture
import Bnbr.Deroulement
import Bnbr.Accueil
import Bnbr.Refus
import Bnbr.Secret
import Bnbr.Jumelles
import Bnbr.Attente
import Bnbr.Initial
import Bnbr.Permutation
import Bnbr.Affichage
import Bnbr.Pose
import Bnbr.Reglages
import Bnbr.Charges
import Bnbr.Visee
import Bnbr.Degats
import Bnbr.Octets
import Bnbr.Boucles
import Bnbr.Liste
import Bnbr.Clib.Conversations
import Bnbr.Conversation
import Bnbr.Clib.Determinacy
import Bnbr.Issue
import Bnbr.Cadence
import Bnbr.Salves
import Bnbr.Fidelite
import Bnbr.Reprise
import Bnbr.Terminaison
import Bnbr.Clib.Battle
import Bnbr.Duree
import Bnbr.Ecrans
import Bnbr.Arrivee
import Bnbr.Remplissage
import Bnbr.Flux
import Bnbr.Tableau
import Bnbr.Processus
import Bnbr.Retour
import Bnbr.Clib.Fairness
import Bnbr.Vivacite
