import ExScript.Keyword

set_option autoImplicit false
set_option maxRecDepth 4000

namespace ExScript

/-- Every command but the keywords: the part that must be written, and the rest, of which any first part
may follow. -/
def commandIndex : List (String × String) :=
  [("a", "ppend"), ("ab", "breviate"), ("abc", "lear"), ("abo", "veleft"), ("abs", "tract"),
   ("al", "l"), ("am", "enu"), ("an", "oremenu"), ("ar", "gs"), ("arga", "dd"), ("argd", "elete"),
   ("argdo", ""), ("arge", "dit"), ("argg", "lobal"), ("argl", "ocal"), ("argu", "ment"),
   ("as", "cii"), ("au", "tocmd"), ("aug", "roup"), ("aun", "menu"), ("b", "uffer"), ("bN", "ext"),
   ("ba", "ll"), ("bad", "d"), ("balt", ""), ("bd", "elete"), ("be", "have"), ("bel", "owright"),
   ("bf", "irst"), ("bl", "ast"), ("bm", "odified"), ("bn", "ext"), ("bo", "tright"),
   ("bp", "revious"), ("br", "ewind"), ("brea", "k"), ("breaka", "dd"), ("breakd", "el"),
   ("breakl", "ist"), ("bro", "wse"), ("bufdo", ""), ("buffers", ""), ("bun", "load"),
   ("bw", "ipeout"), ("c", "hange"), ("cN", "ext"), ("cNf", "ile"), ("ca", "bbrev"),
   ("cabc", "lear"), ("cabo", "ve"), ("cad", "dbuffer"), ("cadde", "xpr"), ("caddf", "ile"),
   ("caf", "ter"), ("cat", "ch"), ("cb", "uffer"), ("cbe", "fore"), ("cbel", "ow"), ("cbo", "ttom"),
   ("cc", ""), ("ccl", "ose"), ("cd", ""), ("cdo", ""), ("ce", "nter"), ("cex", "pr"),
   ("cf", "ile"), ("cfdo", ""), ("cfir", "st"), ("cg", "etfile"), ("cgetb", "uffer"),
   ("cgete", "xpr"), ("changes", ""), ("chd", "ir"), ("che", "ckpath"), ("checkt", "ime"),
   ("chi", "story"), ("cl", "ist"), ("cla", "st"), ("class", ""), ("cle", "arjumps"), ("clo", "se"),
   ("cm", "ap"), ("cmapc", "lear"), ("cme", "nu"), ("cn", "ext"), ("cnew", "er"), ("cnf", "ile"),
   ("cno", "remap"), ("cnorea", "bbrev"), ("cnoreme", "nu"), ("co", "py"), ("col", "der"),
   ("colo", "rscheme"), ("com", "mand"), ("comc", "lear"), ("comp", "iler"), ("con", "tinue"),
   ("conf", "irm"), ("cons", "t"), ("cope", "n"), ("cp", "revious"), ("cpf", "ile"), ("cq", "uit"),
   ("cr", "ewind"), ("cs", "cope"), ("cst", "ag"), ("cu", "nmap"), ("cuna", "bbrev"),
   ("cunme", "nu"), ("cw", "indow"), ("d", "elete"), ("deb", "ug"), ("debugg", "reedy"),
   ("def", ""), ("defc", "ompile"), ("defe", "r"), ("delc", "ommand"), ("delm", "arks"),
   ("di", "splay"), ("dif", "fupdate"), ("diffg", "et"), ("diffo", "ff"), ("diffp", "atch"),
   ("diffpu", "t"), ("diffs", "plit"), ("diffthis", ""), ("dig", "raphs"), ("disa", "ssemble"),
   ("dj", "ump"), ("dl", ""), ("dli", "st"), ("do", "autocmd"), ("doautoa", "ll"), ("dp", ""),
   ("dr", "op"), ("ds", "earch"), ("dsp", "lit"), ("e", "dit"), ("ea", "rlier"),
   ("echoc", "onsole"), ("echoe", "rr"), ("echoh", "l"), ("echom", "sg"), ("echon", ""),
   ("echow", "indow"), ("el", "se"), ("elsei", "f"), ("em", "enu"), ("en", "dif"), ("endclass", ""),
   ("enddef", ""), ("endenum", ""), ("endfo", "r"), ("endinterface", ""), ("endt", "ry"),
   ("endw", "hile"), ("ene", "w"), ("enum", ""), ("eval", ""), ("ex", ""), ("exe", "cute"),
   ("exi", "t"), ("exp", "ort"), ("exu", "sage"), ("f", "ile"), ("files", ""), ("filet", "ype"),
   ("filt", "er"), ("fin", "d"), ("final", ""), ("fina", "lly"), ("fini", "sh"), ("fir", "st"),
   ("fix", "del"), ("fo", "ld"), ("foldc", "lose"), ("foldd", "oopen"), ("folddoc", "losed"),
   ("foldo", "pen"), ("for", ""), ("g", "lobal"), ("go", "to"), ("gr", "ep"), ("grepa", "dd"),
   ("gu", "i"), ("gv", "im"), ("h", "elp"), ("ha", "rdcopy"), ("helpc", "lose"), ("helpf", "ind"),
   ("helpg", "rep"), ("helpt", "ags"), ("hi", "ghlight"), ("hid", "e"), ("his", "tory"),
   ("hor", "izontal"), ("i", "nsert"), ("ia", "bbrev"), ("iabc", "lear"), ("if", ""), ("ij", "ump"),
   ("il", "ist"), ("im", "ap"), ("imapc", "lear"), ("ime", "nu"), ("imp", "ort"), ("ino", "remap"),
   ("inorea", "bbrev"), ("inoreme", "nu"), ("int", "ro"), ("interface", ""), ("is", "earch"),
   ("isp", "lit"), ("iu", "nmap"), ("iuna", "bbrev"), ("iunme", "nu"), ("j", "oin"), ("ju", "mps"),
   ("k", ""), ("kee", "pmarks"), ("keepa", "lt"), ("keepj", "umps"), ("keepp", "atterns"),
   ("l", "ist"), ("lN", "ext"), ("lNf", "ile"), ("la", "st"), ("lab", "ove"), ("lad", "dexpr"),
   ("laddb", "uffer"), ("laddf", "ile"), ("laf", "ter"), ("lan", "guage"), ("lat", "er"),
   ("lb", "uffer"), ("lbe", "fore"), ("lbel", "ow"), ("lbo", "ttom"), ("lc", "d"), ("lch", "dir"),
   ("lcl", "ose"), ("lcs", "cope"), ("ld", "o"), ("le", "ft"), ("lefta", "bove"), ("leg", "acy"),
   ("lex", "pr"), ("lf", "ile"), ("lfdo", ""), ("lfir", "st"), ("lg", "etfile"), ("lgetb", "uffer"),
   ("lgete", "xpr"), ("lgr", "ep"), ("lgrepa", "dd"), ("lh", "elpgrep"), ("lhi", "story"),
   ("ll", ""), ("lla", "st"), ("lli", "st"), ("lm", "ap"), ("lmak", "e"), ("lmapc", "lear"),
   ("ln", "oremap"), ("lne", "xt"), ("lnew", "er"), ("lnf", "ile"), ("lo", "adview"),
   ("loadk", "eymap"), ("loc", "kmarks"), ("lockv", "ar"), ("lol", "der"), ("lop", "en"),
   ("lp", "revious"), ("lpf", "ile"), ("lr", "ewind"), ("ls", ""), ("lt", "ag"), ("lu", "nmap"),
   ("lua", ""), ("luad", "o"), ("luaf", "ile"), ("lv", "imgrep"), ("lvimgrepa", "dd"),
   ("lw", "indow"), ("m", "ove"), ("ma", "rk"), ("mak", "e"), ("map", ""), ("mapc", "lear"),
   ("marks", ""), ("mat", "ch"), ("me", "nu"), ("menut", "ranslate"), ("mes", "sages"),
   ("mk", "exrc"), ("mks", "ession"), ("mksp", "ell"), ("mkv", "imrc"), ("mkvie", "w"),
   ("mod", "e"), ("mz", "scheme"), ("mzf", "ile"), ("n", "ext"), ("nb", "key"), ("nbc", "lose"),
   ("nbs", "tart"), ("new", ""), ("nm", "ap"), ("nmapc", "lear"), ("nme", "nu"), ("nn", "oremap"),
   ("nnoreme", "nu"), ("no", "remap"), ("noa", "utocmd"), ("noh", "lsearch"), ("norea", "bbrev"),
   ("noreme", "nu"), ("norm", "al"), ("nos", "wapfile"), ("nu", "mber"), ("nun", "map"),
   ("nunme", "nu"), ("o", "pen"), ("ol", "dfiles"), ("om", "ap"), ("omapc", "lear"), ("ome", "nu"),
   ("on", "ly"), ("ono", "remap"), ("onoreme", "nu"), ("opt", "ions"), ("ou", "nmap"),
   ("ounme", "nu"), ("ow", "nsyntax"), ("p", "rint"), ("pa", "ckadd"), ("packl", "oadall"),
   ("pc", "lose"), ("pe", "rl"), ("ped", "it"), ("perld", "o"), ("po", "p"), ("popu", "p"),
   ("pp", "op"), ("pre", "serve"), ("prev", "ious"), ("pro", "mptfind"), ("prof", "ile"),
   ("profd", "el"), ("promptr", "epl"), ("ps", "earch"), ("pt", "ag"), ("ptN", "ext"),
   ("ptf", "irst"), ("ptj", "ump"), ("ptl", "ast"), ("ptn", "ext"), ("ptp", "revious"),
   ("ptr", "ewind"), ("pts", "elect"), ("pu", "t"), ("pub", "lic"), ("pw", "d"), ("py", "thon"),
   ("py3", ""), ("py3d", "o"), ("py3f", "ile"), ("pyd", "o"), ("pyf", "ile"), ("pyx", ""),
   ("pyxd", "o"), ("pyxf", "ile"), ("q", "uit"), ("qa", "ll"), ("quita", "ll"), ("r", "ead"),
   ("rec", "over"), ("red", "o"), ("redi", "r"), ("redr", "aw"), ("redraws", "tatus"),
   ("redrawt", "abline"), ("reg", "isters"), ("res", "ize"), ("ret", "ab"), ("rew", "ind"),
   ("ri", "ght"), ("rightb", "elow"), ("ru", "ntime"), ("rub", "y"), ("rubyd", "o"),
   ("rubyf", "ile"), ("rund", "o"), ("rv", "iminfo"), ("s", "ubstitute"), ("sN", "ext"),
   ("sa", "rgument"), ("sal", "l"), ("san", "dbox"), ("sav", "eas"), ("sb", "uffer"),
   ("sbN", "ext"), ("sba", "ll"), ("sbf", "irst"), ("sbl", "ast"), ("sbm", "odified"),
   ("sbn", "ext"), ("sbp", "revious"), ("sbr", "ewind"), ("scr", "iptnames"),
   ("scripte", "ncoding"), ("scriptv", "ersion"), ("scs", "cope"), ("se", "t"), ("setf", "iletype"),
   ("setg", "lobal"), ("setl", "ocal"), ("sf", "ind"), ("sfir", "st"), ("sh", "ell"),
   ("si", "malt"), ("sig", "n"), ("sil", "ent"), ("sl", "eep"), ("sla", "st"), ("sm", "agic"),
   ("sma", "p"), ("smapc", "lear"), ("sme", "nu"), ("sn", "ext"), ("sno", "magic"),
   ("snor", "emap"), ("snoreme", "nu"), ("so", "urce"), ("sor", "t"), ("sp", "lit"),
   ("spe", "llgood"), ("spelld", "ump"), ("spelli", "nfo"), ("spellr", "epall"), ("spellra", "re"),
   ("spellu", "ndo"), ("spellw", "rong"), ("spr", "evious"), ("sre", "wind"), ("st", "op"),
   ("sta", "g"), ("star", "tinsert"), ("startg", "replace"), ("startr", "eplace"), ("stat", "ic"),
   ("stj", "ump"), ("stopi", "nsert"), ("sts", "elect"), ("sun", "hide"), ("sunm", "ap"),
   ("sunme", "nu"), ("sus", "pend"), ("sv", "iew"), ("sw", "apname"), ("sy", "ntax"),
   ("sync", "bind"), ("synti", "me"), ("t", ""), ("tN", "ext"), ("tab", ""), ("tabN", "ext"),
   ("tabc", "lose"), ("tabd", "o"), ("tabe", "dit"), ("tabf", "ind"), ("tabfir", "st"),
   ("tabl", "ast"), ("tabm", "ove"), ("tabn", "ext"), ("tabnew", ""), ("tabo", "nly"),
   ("tabp", "revious"), ("tabr", "ewind"), ("tabs", ""), ("tc", "d"), ("tch", "dir"), ("tcl", ""),
   ("tcld", "o"), ("tclf", "ile"), ("te", "aroff"), ("ter", "minal"), ("tf", "irst"), ("th", "row"),
   ("tj", "ump"), ("tl", "ast"), ("tlm", "enu"), ("tln", "oremenu"), ("tlu", "nmenu"),
   ("tm", "enu"), ("tma", "p"), ("tmapc", "lear"), ("tn", "ext"), ("tno", "remap"), ("to", "pleft"),
   ("tp", "revious"), ("tr", "ewind"), ("try", ""), ("ts", "elect"), ("tu", "nmenu"),
   ("tunma", "p"), ("type", ""), ("u", "ndo"), ("una", "bbreviate"), ("undoj", "oin"),
   ("undol", "ist"), ("unh", "ide"), ("unlo", "ckvar"), ("unm", "ap"), ("unme", "nu"),
   ("uns", "ilent"), ("up", "date"), ("v", "global"), ("var", ""), ("ve", "rsion"), ("verb", "ose"),
   ("vert", "ical"), ("vi", "sual"), ("vie", "w"), ("vim", "grep"), ("vim9", "cmd"),
   ("vim9s", "cript"), ("vimgrepa", "dd"), ("viu", "sage"), ("vm", "ap"), ("vmapc", "lear"),
   ("vme", "nu"), ("vn", "oremap"), ("vne", "w"), ("vnoreme", "nu"), ("vs", "plit"), ("vu", "nmap"),
   ("vunme", "nu"), ("w", "rite"), ("wN", "ext"), ("wa", "ll"), ("wh", "ile"), ("wi", "nsize"),
   ("winc", "md"), ("windo", ""), ("winp", "os"), ("wn", "ext"), ("wp", "revious"), ("wq", ""),
   ("wqa", "ll"), ("wu", "ndo"), ("wv", "iminfo"), ("x", "it"), ("xa", "ll"), ("xm", "ap"),
   ("xmapc", "lear"), ("xme", "nu"), ("xn", "oremap"), ("xnoreme", "nu"), ("xr", "estore"),
   ("xu", "nmap"), ("xunme", "nu"), ("y", "ank"), ("z", "")]

def isKnownCommand (word : List Char) : Bool :=
  (Keyword.ofWord? word).isSome ||
    commandIndex.any fun (required, optional) =>
      required.toList.isPrefixOf word && (word.drop required.length).isPrefixOf optional.toList

end ExScript
